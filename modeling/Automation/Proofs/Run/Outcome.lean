import Automation.Proofs.Fields
import Automation.Proofs.Json.Equal
import Automation.Proofs.Run.Steps

/-!
# What comes of a run

Of three things exactly one happens to every run (`Runner.execute_outcome`). It is refused with a
fault, and leaves nothing (`Runner.Refused`); it is rejected, and leaves a single event
(`Runner.Rejected`); or it is admitted, is counted once, and leaves an event at its start, one for
each result in order, and one at its end (`Runner.Admitted`).
-/

namespace Automation

open Text

/-! ## Events and counts -/

namespace Event

/-- The event is about the run. -/
structure About (run : RunResult) (e : Event) : Prop where
  tenant : e.tenant = run.tenant
  automation : e.automation = run.automation
  runId : e.runId = run.runId

/-- The value of a property. -/
def property? (e : Event) (name : String) : Option Json :=
  e.properties.lookup name

@[simp] theorem property?_withProperty_self (e : Event) (name : String) (value : Json) :
    (e.withProperty name value).property? name = some value :=
  Fields.lookup_insert_self name value e.properties

/-- A property that is set does not touch others. -/
theorem property?_withProperty_ne (e : Event) {name other : String} (value : Json)
    (h : other ≠ name) : (e.withProperty name value).property? other = e.property? other :=
  Fields.lookup_insert_ne h value e.properties

end Event

namespace Services

/-- An event that is published comes last in the log, unless events are dropped. -/
theorem publish_log {s : Services} (e : Event) (h : s.dropsEvents = false) :
    (s.publish e).log.events = s.log.events ++ [e] := by
  unfold publish
  rw [h]
  rfl

/-- Publishing an event does not touch the store. -/
theorem publish_sameStore (s : Services) (e : Event) :
    (s.publish e).store = s.store ∧ (s.publish e).storeOutages = s.storeOutages := by
  unfold publish
  split <;> exact ⟨rfl, rfl⟩

/-- Counting a run publishes nothing. -/
theorem countRun_log (s : Services) (tenant : Tenant) : (s.countRun tenant).log = s.log := by
  unfold countRun
  split <;> rfl

/-- A quota in service counts the run. -/
theorem countRun_of_served {s : Services} (tenant : Tenant) (h : s.quotaOutages = []) :
    s.countRun tenant = { s with quota := s.quota.record tenant 1 } := by
  unfold countRun
  rw [h]
  rfl

end Services

namespace Quota

variable (q : Quota) (runs : Nat) {tenant other : Tenant}

/-- Runs of a tenant are counted up to the largest word. -/
theorem usage_record_self :
    (q.record tenant runs).usage tenant = min (q.usage tenant + runs) maxWord64 :=
  PerTenant.get_set_same _ _ _

/-- Runs of a tenant are not counted for others. -/
theorem usage_record_other (h : other ≠ tenant) :
    (q.record tenant runs).usage other = q.usage other :=
  PerTenant.get_set_other _ _ h

end Quota

namespace Runner

variable (r : Runner)

/-- Storing a run leaves the books alone. -/
theorem persist_sameBooks (run : RunResult) (s : Services) : s.SameBooks (persist run s) :=
  Services.putDocument_sameBooks s _ _

/-- The last event of a run is that of its end. -/
theorem finish_log (run : RunResult) {s : Services} (h : s.dropsEvents = false) :
    (r.finish run s).log.events = s.log.events ++ [finishEvent run s.now] := by
  have hlog : ((s.publish (finishEvent run s.now)).countRun run.tenant).log.events =
      s.log.events ++ [finishEvent run s.now] := by
    rw [Services.countRun_log, Services.publish_log _ h]
  unfold finish
  dsimp only
  split
  · rw [(persist_sameBooks run _).log]
    exact hlog
  · exact hlog

/-- What is done at the end of a run counts it, if the quota is in service. -/
theorem finish_quota (run : RunResult) {s : Services} (h : s.quotaOutages = []) :
    (r.finish run s).quota = s.quota.record run.tenant 1 ∧
      (r.finish run s).quotaOutages = [] := by
  have hgates := s.publish_sameGates (finishEvent run s.now)
  have hcount := Services.countRun_of_served run.tenant (hgates.quotaOutages.trans h)
  have hquota : ((s.publish (finishEvent run s.now)).countRun run.tenant).quota =
      s.quota.record run.tenant 1 := by
    rw [hcount, hgates.quota]
  have houtages : ((s.publish (finishEvent run s.now)).countRun run.tenant).quotaOutages = [] := by
    rw [hcount, hgates.quotaOutages, h]
  unfold finish
  dsimp only
  split
  · have hbooks := persist_sameBooks run ((s.publish (finishEvent run s.now)).countRun run.tenant)
    exact ⟨hbooks.quota.trans hquota, hbooks.quotaOutages.trans houtages⟩
  · exact ⟨hquota, houtages⟩

/-! ## The events of the steps -/

/-- The events of results, the first of which has a position. -/
def completions (run : RunResult) (position : Nat) (results : List StepResult) : List Event :=
  results.mapIdx fun i result => completion run (position + i) result

/-- The event of one more step comes after those of the steps before. -/
theorem completions_concat (run : RunResult) (position : Nat) (results : List StepResult)
    (result : StepResult) :
    completions run position (results ++ [result]) =
      completions run position results ++ [completion run (position + results.length) result] := by
  simp [completions, List.mapIdx_append]

/-- A step at a position publishes the event of its result. -/
theorem servicesAfter_log (run : RunResult) (position : Nat) (step : Step) (p : Progress)
    (h : p.services.dropsEvents = false) :
    (r.servicesAfter run position step p).log.events =
      p.services.log.events ++ [completion run position (r.resultOf run.tenant step p)] := by
  have hbooks := Execution.step_sameBooks r.config run.tenant step p
  unfold servicesAfter
  rw [Services.publish_log _ (hbooks.dropsEvents.trans h), hbooks.log]

/-- A step and its event open and close no gates. -/
theorem servicesAfter_sameGates (run : RunResult) (position : Nat) (step : Step) (p : Progress) :
    p.services.SameGates (r.servicesAfter run position step p) :=
  (Execution.step_sameBooks r.config run.tenant step p).toSameGates.trans
    (Services.publish_sameGates _ _)

section
variable {r : Runner} {run : RunResult} {position : Nat} {context : Context} {steps : List Step}
  {results : List StepResult} {σ : Nat → Services}

/-- No step touches the quota. -/
theorem StepRun.sameGates (h : StepRun r run position context steps results σ) {i : Nat}
    (hi : i ≤ results.length) : (σ 0).SameGates (σ i) :=
  h.invariant (fun position step p hp => hp.trans (r.servicesAfter_sameGates run position step p))
    (.refl _) hi

/-- Before the step at an index, the results up to that have published their events. -/
theorem StepRun.log (h : StepRun r run position context steps results σ)
    (hdrops : (σ 0).dropsEvents = false) {i : Nat} (hi : i ≤ results.length) :
    (σ i).log.events = (σ 0).log.events ++ completions run position (results.take i) := by
  induction i with
  | zero => simp [completions]
  | succ i ih =>
    obtain ⟨result, hresult⟩ : ∃ result, results[i]? = some result :=
      ⟨_, List.getElem?_eq_getElem hi⟩
    obtain ⟨step, hstep⟩ : ∃ step, steps[i]? = some step :=
      ⟨_, List.getElem?_eq_getElem (Nat.lt_of_lt_of_le hi h.length_le)⟩
    have hi' := Nat.le_of_succ_le hi
    rw [h.services i _ hstep hi,
      r.servicesAfter_log run _ _ _ ((h.sameGates hi').dropsEvents.trans hdrops), ih hi',
      ← h.result i _ _ hstep hresult, List.append_assoc, List.take_add_one, hresult,
      Option.toList_some, completions_concat, List.length_take_of_le hi']

/-- The quota of an admitted run is before its end what it was before the run. -/
theorem Completed.sameGates {d : Definition} {payload : Json} {tenant : Tenant} {s : Services}
    (h : Completed r d payload tenant s run σ) : s.SameGates (σ run.steps.length) := by
  have hstart : s.SameGates (σ 0) := by
    rw [h.start]
    exact s.freshRunId_sameGates.trans (Services.publish_sameGates _ _)
  exact hstart.trans (h.steps.sameGates (Nat.le_refl _))

end

/-! ## What the events say -/

/-- The event of a run that has been created. -/
structure Announces (run : RunResult) (e : Event) : Prop extends e.About run where
  kind : e.kind = .runCreated

/-- The event of a result at a position: it names the step and its kind, and tells how it ended. -/
structure Completes (run : RunResult) (position : Nat) (result : StepResult) (e : Event) : Prop
    extends e.About run where
  kind : e.kind = .stepCompleted
  step : e.property? "step" = some (.string result.id)
  stepKind : e.property? "step_id" = some (.string result.kind.wireName)
  status : e.property? "status" = some (.string result.status.wireName)
  position : e.property? "position" = some (.int position)

/-- The event of a run that is over: it tells how the run ended and how many steps it had. -/
structure Finishes (run : RunResult) (e : Event) : Prop extends e.About run where
  kind : e.kind = .runFinished
  status : e.property? "status" = some (.string run.status.wireName)
  steps : e.property? "steps_completed" = some (.int run.steps.length)

/-- The event of a step reports its result. -/
theorem completion_completes (run : RunResult) (position : Nat) (result : StepResult) :
    Completes run position result (completion run position result) where
  tenant := rfl
  automation := rfl
  runId := rfl
  kind := rfl
  step := by simp [completion, stepEvent, Event.property?_withProperty_ne]
  stepKind := by simp [completion, stepEvent, Event.property?_withProperty_ne]
  status := by simp [completion, stepEvent, Event.property?_withProperty_ne]
  position := by simp [completion, stepEvent, Event.property?_withProperty_ne]

/-- The event of the end of a run reports how it has ended. -/
theorem finishEvent_finishes (run : RunResult) (now : Moment) :
    Finishes run (finishEvent run now) := by
  unfold finishEvent
  cases run.error with
  | none =>
    refine ⟨⟨rfl, rfl, rfl⟩, rfl, ?_, ?_⟩
    · simp [Event.property?_withProperty_ne]
    · simp [Event.property?_withProperty_ne]
  | some error =>
    refine ⟨⟨rfl, rfl, rfl⟩, rfl, ?_, ?_⟩
    · simp [Event.property?_withProperty_ne]
    · simp [Event.property?_withProperty_ne]

/-- The event of a run that is rejected for a reason. -/
def rejection (run : RunResult) (reason : String) (now : Moment) : Event :=
  (run.event .runRejected now).withProperty "reason" (.string reason)

/-- A run that has not been admitted yet can be rejected. -/
theorem reject_eq (d : Definition) (payload : Json) (tenant : Tenant) (reason : String)
    (s : Services) :
    let run := freshRun d payload tenant s
    let s' := s.freshRunId.2.publish (rejection run reason s.freshRunId.2.now)
    reject run reason s.freshRunId.2 =
      (.ok { run with status := .failed, error := some reason, finishedAt := s'.now }, s') := rfl

/-! ## The three outcomes -/

/-- A payload is no object and not null if it cannot be made one. -/
theorem payload?_eq_none_iff {payload : Json} :
    payload? payload = none ↔ payload ≠ .null ∧ ∀ fields, payload ≠ .object fields := by
  cases payload <;> simp [payload?]

section
variable (d : Definition) (payload : Json) (tenant : Tenant) (s : Services)

/-- A run is refused: another tenant owns the definition, or it does not pass its check, which is
made if the payload and the quota allow the run. The run has failed with a fault and without steps.
Events, counts and documents are as before. -/
structure Refused : Prop where
  reason : d.tenant ≠ tenant ∨ ((payload? payload).isSome ∧ s.checkQuota tenant = .ok true ∧
    ∃ fault, d.check r.registry = .error fault)
  result : ∃ fault, (r.execute d payload tenant s).1 = .error fault ∧
    fault.run.status = .failed ∧ fault.run.steps = []
  log : (r.execute d payload tenant s).2.log = s.log
  quota : (r.execute d payload tenant s).2.quota = s.quota
  store : (r.execute d payload tenant s).2.store = s.store

/-- A run of a tenant's own definition is rejected: the payload is neither an object nor null, or
the quota does not allow the run. The run has failed with an error and without steps. There is one
more event, and counts and documents are as before. -/
structure Rejected : Prop where
  owner : d.tenant = tenant
  reason : (payload ≠ .null ∧ ∀ fields, payload ≠ .object fields) ∨
    s.checkQuota tenant = .ok false
  result : ∃ run event, (r.execute d payload tenant s).1 = .ok run ∧
    run.status = .failed ∧ run.steps = [] ∧ run.error.isSome ∧
    (r.execute d payload tenant s).2.log.events = s.log.events ++ [event] ∧
    event.About run ∧ event.kind = .runRejected
  quota : (r.execute d payload tenant s).2.quota = s.quota
  store : (r.execute d payload tenant s).2.store = s.store

/-- A run is admitted. Its events are that of its creation, those of its results in order, and that
of its end. It is counted for its tenant, up to the largest word, and for no other. -/
structure Admitted : Prop where
  admits : r.Admits d payload tenant s
  result : ∃ run created completed finished, (r.execute d payload tenant s).1 = .ok run ∧
    (r.execute d payload tenant s).2.log.events =
      s.log.events ++ created :: (completed ++ [finished]) ∧
    Announces run created ∧
    completed.length = run.steps.length ∧
    (∀ (i : Nat) result event, run.steps[i]? = some result → completed[i]? = some event →
      Completes run (i + 1) result event) ∧
    Finishes run finished
  usage : (r.execute d payload tenant s).2.quota.usage tenant =
    min (s.quota.usage tenant + 1) maxWord64
  others : ∀ other, other ≠ tenant →
    (r.execute d payload tenant s).2.quota.usage other = s.quota.usage other

variable {r d payload tenant s}

/-- A run that is refused is not rejected. -/
theorem Refused.not_rejected (h : r.Refused d payload tenant s) :
    ¬ r.Rejected d payload tenant s := by
  intro h'
  obtain ⟨fault, hfault, -⟩ := h.result
  obtain ⟨run, event, hrun, -⟩ := h'.result
  rw [hfault] at hrun
  cases hrun

/-- A run that is refused is not admitted. -/
theorem Refused.not_admitted (h : r.Refused d payload tenant s) :
    ¬ r.Admitted d payload tenant s := by
  intro h'
  obtain ⟨fault, hfault, -⟩ := h.result
  obtain ⟨run, created, completed, finished, hrun, -⟩ := h'.result
  rw [hfault] at hrun
  cases hrun

/-- The events tell a rejected run from an admitted one. -/
theorem Rejected.not_admitted (h : r.Rejected d payload tenant s) :
    ¬ r.Admitted d payload tenant s := by
  intro h'
  obtain ⟨-, event, -, -, -, -, hlog, -, hkind⟩ := h.result
  obtain ⟨-, created, completed, finished, -, hlog', hcreated, -⟩ := h'.result
  rw [hlog] at hlog'
  have hlast := List.append_cancel_left hlog'
  have hlength := congrArg List.length hlast
  simp at hlength

/-- A run that is nothing but a refusal, for one of the reasons, is refused. -/
theorem refused_of_eq {payload' : Json} {fault : EngineFault}
    (hreason : d.tenant ≠ tenant ∨ ((payload? payload).isSome ∧ s.checkQuota tenant = .ok true ∧
      ∃ fault, d.check r.registry = .error fault))
    (h : r.execute d payload tenant s =
      refuse (freshRun d payload' tenant s) fault s.freshRunId.2) :
    r.Refused d payload tenant s where
  reason := hreason
  result := ⟨_, by rw [h]; rfl, rfl, rfl⟩
  log := by rw [h]; rfl
  quota := by rw [h]; rfl
  store := by rw [h]; rfl

/-- A run that is nothing but a rejection, for one of the reasons, is rejected. -/
theorem rejected_of_eq {payload' : Json} {text : String} (hdrops : s.dropsEvents = false)
    (howner : d.tenant = tenant)
    (hreason : (payload ≠ .null ∧ ∀ fields, payload ≠ .object fields) ∨
      s.checkQuota tenant = .ok false)
    (h : r.execute d payload tenant s =
      reject (freshRun d payload' tenant s) text s.freshRunId.2) :
    r.Rejected d payload tenant s := by
  have hdrops' : s.freshRunId.2.dropsEvents = false := hdrops
  rw [reject_eq] at h
  refine ⟨howner, hreason, ⟨_, rejection (freshRun d payload' tenant s) text s.freshRunId.2.now,
    congrArg Prod.fst h, rfl, rfl, rfl, ?_, ⟨rfl, rfl, rfl⟩, rfl⟩, ?_, ?_⟩
  · rw [h, Services.publish_log _ hdrops']
    rfl
  · rw [h]
    exact (Services.publish_sameGates _ _).quota
  · rw [h, (Services.publish_sameStore _ _).1]
    rfl

/-- The events of an admitted run are published around those of its results, and it is counted by
the quota as it was at its start. -/
theorem Admits.admitted (h : r.Admits d payload tenant s) (hdrops : s.dropsEvents = false)
    (houtages : s.quotaOutages = []) : r.Admitted d payload tenant s := by
  obtain ⟨run, σ, hrun⟩ := h.completed
  have hdrops' : s.freshRunId.2.dropsEvents = false := hdrops
  have hstart_drops : (σ 0).dropsEvents = false := by
    rw [hrun.start, (Services.publish_sameGates _ _).dropsEvents, hdrops']
  have hgates := hrun.sameGates
  have hquota := (r.finish_quota run (hgates.quotaOutages.trans houtages)).1
  rw [hgates.quota, hrun.tenant] at hquota
  refine ⟨h, ⟨run, startEvent d run run.startedAt, completions run 1 run.steps,
    finishEvent run (σ run.steps.length).now, ?_, ?_, ⟨⟨rfl, rfl, rfl⟩, rfl⟩, ?_, ?_,
    finishEvent_finishes run _⟩, ?_, ?_⟩
  · rw [hrun.execute]
  · rw [hrun.execute, finish_log r run (hgates.dropsEvents.trans hdrops),
      hrun.steps.log hstart_drops (Nat.le_refl _), hrun.start, Services.publish_log _ hdrops',
      List.take_length, List.append_assoc, List.append_assoc]
    rfl
  · exact List.length_mapIdx
  · intro i result event hresult hevent
    rw [completions, List.getElem?_mapIdx, hresult] at hevent
    cases hevent
    rw [Nat.add_comm]
    exact completion_completes run (1 + i) result
  · rw [hrun.execute, hquota]
    exact s.quota.usage_record_self 1
  · intro other hother
    rw [hrun.execute, hquota]
    exact s.quota.usage_record_other 1 hother

end

/-- A run is refused, rejected or admitted, and only one of these. Here the quota is in service and
events are recorded. -/
theorem execute_outcome (d : Definition) (payload : Json) (tenant : Tenant) (s : Services)
    (houtages : s.quotaOutages = []) (hdrops : s.dropsEvents = false) :
    (r.Refused d payload tenant s ∧ ¬ r.Rejected d payload tenant s ∧
      ¬ r.Admitted d payload tenant s) ∨
    (¬ r.Refused d payload tenant s ∧ r.Rejected d payload tenant s ∧
      ¬ r.Admitted d payload tenant s) ∨
    (¬ r.Refused d payload tenant s ∧ ¬ r.Rejected d payload tenant s ∧
      r.Admitted d payload tenant s) := by
  have hrefused (h : r.Refused d payload tenant s) : r.Refused d payload tenant s ∧
      ¬ r.Rejected d payload tenant s ∧ ¬ r.Admitted d payload tenant s :=
    ⟨h, h.not_rejected, h.not_admitted⟩
  have hrejected (h : r.Rejected d payload tenant s) : ¬ r.Refused d payload tenant s ∧
      r.Rejected d payload tenant s ∧ ¬ r.Admitted d payload tenant s :=
    ⟨fun h' => h'.not_rejected h, h, h.not_admitted⟩
  by_cases howner : d.tenant = tenant
  · cases hp : payload? payload with
    | none =>
      exact .inr (.inl (hrejected (rejected_of_eq hdrops howner
        (.inl (payload?_eq_none_iff.1 hp)) (r.execute_badPayload howner hp))))
    | some trigger =>
      have hpayload : (payload? payload).isSome := by simp [hp]
      obtain ⟨allowed, hquota⟩ : ∃ allowed, s.checkQuota tenant = .ok allowed :=
        ⟨_, by rw [Services.checkQuota, houtages]; rfl⟩
      cases allowed with
      | false =>
        have hquota' : s.freshRunId.2.checkQuota tenant = .ok false := hquota
        have hreason : quotaObjection? tenant s.freshRunId.2 = some (quotaReason tenant) := by
          rw [quotaObjection?, hquota']
        exact .inr (.inl (hrejected (rejected_of_eq hdrops howner (.inr hquota)
          (r.execute_quota howner hp hreason))))
      | true =>
        cases hd : d.check r.registry with
        | error fault =>
          exact .inl (hrefused (refused_of_eq (.inr ⟨hpayload, hquota, fault, hd⟩)
            (r.execute_invalid howner hp (quotaObjection?_eq_none_iff.2 hquota) hd)))
        | ok warnings =>
          have hadmitted := Admits.admitted ⟨howner, hpayload, hquota, warnings, hd⟩ hdrops houtages
          exact .inr (.inr ⟨fun h => h.not_admitted hadmitted, fun h => h.not_admitted hadmitted,
            hadmitted⟩)
  · exact .inl (hrefused (refused_of_eq (.inl howner) (r.execute_otherTenant howner)))

/-- A run of two steps, the first of which fails without halting the run. It is admitted and
counted, and there is an event at its start, one for each step, and one at its end. -/
theorem execute_outcome_two :
    let inputs : Entries Json := ⟨[("field", .int 1), ("value", .int 2)], by decide⟩
    let d : Definition :=
      { id := "a", tenant := ⟨"t"⟩, trigger := { event := .cron },
        steps := [{ id := "x", kind := .filter, inputs, haltOnFailure := some false },
          { id := "y", kind := .delay, inputs := ⟨[("time", .int 5)], by decide⟩ }] }
    let r : Runner := {}
    let s : Services := { clock := default }
    let after := (r.execute d .null ⟨"t"⟩ s).2
    s.quotaOutages = [] ∧ s.dropsEvents = false ∧ r.Admitted d .null ⟨"t"⟩ s ∧
      (after.log.events.map fun e =>
          (e.kind, e.property? "step", e.property? "position", e.property? "status")) =
        [(.runCreated, none, none, none),
          (.stepCompleted, some (.string "x"), some (.int 1), some (.string "FAILED")),
          (.stepCompleted, some (.string "y"), some (.int 2), some (.string "SUCCESS")),
          (.runFinished, none, none, some (.string "SUCCESS"))] ∧
      after.quota.usage ⟨"t"⟩ = 1 := by
  intro inputs d r s after
  have husage : after.quota.usage ⟨"t"⟩ = 1 := by
    decide +kernel
  refine ⟨rfl, rfl, ?_, by decide +kernel, husage⟩
  -- Only a run that is admitted is counted.
  rcases r.execute_outcome d .null ⟨"t"⟩ s rfl rfl with ⟨h, -⟩ | ⟨-, h, -⟩ | ⟨-, -, h⟩
  · rw [show after.quota = s.quota from h.quota] at husage
    cases husage
  · rw [show after.quota = s.quota from h.quota] at husage
    cases husage
  · exact h

end Runner

end Automation
