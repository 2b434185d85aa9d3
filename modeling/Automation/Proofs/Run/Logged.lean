import Automation.Proofs.Execution.Sorted
import Automation.Proofs.Run.Layout
import Automation.Proofs.Run.Writes

/-!
# Logs of runs

The services are well-formed for a tenant if the objects in its documents are in order and the clock
was started on a day of the calendar (`Services.WellFormed`). All steps keep them so, and their
results are well-formed then (`Runner.Completed.wellFormed`): the run that is returned can be read
back from its value, and that is what its log holds (`Runner.execute_logged`).
-/

namespace Automation

namespace Services

/-- What a tenant has in the store, and what webhooks are answered, is in order, and the clock shows
moments that exist. -/
structure WellFormed (tenant : Tenant) (s : Services) : Prop extends Orderly tenant s where
  clock : s.clock.start.OnCalendar

variable {tenant : Tenant} {s t : Services}

/-- The present of well-formed services exists. -/
theorem WellFormed.now (h : WellFormed tenant s) : s.now.Exists :=
  h.clock.later _

/-- Publishing an event keeps services well-formed. -/
theorem WellFormed.publish (h : WellFormed tenant s) (e : Event) :
    WellFormed tenant (s.publish e) := by
  refine ⟨h.toOrderly.publish e, ?_⟩
  unfold Services.publish
  split
  · exact h.clock
  · exact h.clock

/-- No request of a step sets the clock. -/
theorem Request.clock_start (h : Request tenant s t) : t.clock.start = s.clock.start := by
  cases h with
  | elapse | suffix | send => rfl
  | @put d _ =>
    rcases s.putDocument_cases tenant d with ⟨fault, hput⟩ | hput
    · rw [hput]
    · rw [hput]
  | @remove id _ =>
    rcases s.removeDocument_cases tenant id with ⟨fault, hremove⟩ | ⟨d, hremove⟩
    · rw [hremove]
    · rw [hremove]

end Services

open Services

/-- A step keeps the services well-formed. Its outputs are in order, and its moments exist. -/
theorem Execution.step_wellFormed (c : Config) {tenant : Tenant} (step : Step) {p : Progress}
    (h : WellFormed tenant p.services) (halts : Bool) :
    ((Execution.step c tenant step p).1.result halts).WellFormed ∧
      WellFormed tenant (Execution.step c tenant step p).2.services := by
  obtain ⟨houtputs, horderly⟩ := step_sorted c tenant step h.toOrderly
  have hclock : (Execution.step c tenant step p).2.services.clock.start = p.services.clock.start :=
    step_keeps (P := fun s => s.clock.start = p.services.clock.start) c tenant
      (fun _ _ hrequest hs => hrequest.clock_start.trans hs) step rfl
  have hafter : WellFormed tenant (Execution.step c tenant step p).2.services :=
    ⟨horderly, hclock ▸ h.clock⟩
  refine ⟨⟨houtputs, fun m hm => ?_⟩, hafter⟩
  rcases List.mem_cons.1 hm with rfl | hfinished
  · exact h.now
  · rw [List.mem_singleton.1 hfinished]
    exact hafter.now

namespace Runner

variable {r : Runner} {d : Definition} {payload : Json} {tenant : Tenant} {s : Services}
  {run : RunResult} {σ : Nat → Services}

/-- A trigger is in order if the payload is. -/
theorem sorted_of_payload? {trigger : Json} (h : payload? payload = some trigger)
    (hpayload : payload.Sorted) : trigger.Sorted := by
  cases payload with
  | null =>
    cases h
    exact Json.sorted_object_nil
  | object fields =>
    cases h
    exact hpayload
  | bool | number | string | array => cases h

/-- The services are well-formed before each step of a run, and after the last one. -/
theorem Completed.services_wellFormed (h : Completed r d payload tenant s run σ)
    (hs : WellFormed tenant s) {i : Nat} (hi : i ≤ run.steps.length) :
    WellFormed tenant (σ i) := by
  have hfresh : WellFormed tenant s.freshRunId.2 := ⟨hs.toOrderly.of_eq rfl rfl, hs.clock⟩
  refine h.steps.invariant (fun position step p hp => ?_) (by rw [h.start]; exact hfresh.publish _)
    hi
  unfold servicesAfter
  rw [h.tenant]
  exact (Execution.step_wellFormed r.config step hp false).2.publish _

/-- All results of a run are well-formed. -/
theorem Completed.results_wellFormed (h : Completed r d payload tenant s run σ)
    (hs : WellFormed tenant s) : ∀ result ∈ run.steps, result.WellFormed := by
  intro result hresult
  obtain ⟨i, hi⟩ := List.mem_iff_getElem?.1 hresult
  have hlt : i < run.steps.length := (List.getElem?_eq_some_iff.1 hi).1
  obtain ⟨step, hstep⟩ : ∃ step, d.steps[i]? = some step :=
    ⟨_, List.getElem?_eq_getElem (Nat.lt_of_lt_of_le hlt h.steps.length_le)⟩
  rw [h.steps.result i step result hstep hi, h.tenant]
  exact (Execution.step_wellFormed r.config step
    (h.services_wellFormed hs (Nat.le_of_lt hlt)) (halts step)).1

/-- A run that has been admitted is well-formed. -/
theorem Completed.wellFormed (h : Completed r d payload tenant s run σ)
    (hpayload : payload.Sorted) (hs : WellFormed tenant s) (hstarted : run.startedAt = s.now)
    (hfinished : run.finishedAt = (σ run.steps.length).now) : run.WellFormed := by
  have hresults := h.results_wellFormed hs
  refine ⟨sorted_of_payload? h.trigger hpayload, fun result hresult => (hresults result hresult).1,
    List.forall_mem_cons.2 ⟨?_, List.forall_mem_cons.2 ⟨?_, fun m hm => ?_⟩⟩⟩
  · rw [hstarted]
    exact hs.now
  · rw [hfinished]
    exact (h.services_wellFormed hs (Nat.le_refl _)).now
  · obtain ⟨result, hresult, hmoment⟩ := List.mem_flatMap.1 hm
    exact (hresults result hresult).moments m hmoment

/-- A run that was admitted is found in its log, if logs are kept and the store takes documents. The
log is a document of the tenant, and its body is read to the very run that is returned, if all
moments of the run are in years of four digits. -/
theorem execute_logged (h : r.Admits d payload tenant s)
    (hpersists : r.config.persistsRunLogs = true) (hserved : s.storeOutages.lookup .put = none)
    (hpayload : payload.Sorted) (hs : WellFormed tenant s) :
    ∃ run document, (r.execute d payload tenant s).1 = .ok run ∧
      (r.execute d payload tenant s).2.store.get? tenant
        ("log_" ++ run.automation ++ "_" ++ run.runId) = some document ∧
      run.automation = d.id ∧ run.tenant = tenant ∧
      ((∀ m ∈ run.moments, m.FourDigits) →
        RunResult.ofTree (.ofJson document.body) = .ok run) := by
  obtain ⟨run, σ, hrun, hstarted, hfinished⟩ := h.completed_at
  have hfound : (r.execute d payload tenant s).2.store.get? tenant run.logId = _ :=
    hrun.get? (.inr (isId_logId run))
  rw [if_pos ⟨hpersists, hserved, rfl, rfl⟩] at hfound
  exact ⟨run, _, congrArg Prod.fst hrun.execute, hfound, hrun.automation, hrun.tenant,
    RunResult.ofTree_toJson (hrun.wellFormed hpayload hs hstarted hfinished)⟩

/-- A run over the end of a year: a step that collects a value and one that waits. -/
theorem execute_logged_delay :
    let d : Definition :=
      { id := "a", tenant := ⟨"t"⟩, trigger := { event := .cron },
        steps := [
          { id := "x", kind := .collect,
            inputs := ⟨[("collection", .array [.int 1, .null])], by decide⟩ },
          { id := "y", kind := .delay, inputs := ⟨[("time", .int 1500)], by decide⟩ }] }
    let r : Runner := { config := { persistsRunLogs := true } }
    let s : Services := { clock := ⟨⟨2026, 12, 31, 23, 59, 59, 0⟩, 0⟩ }
    (r.Admits d .null ⟨"t"⟩ s ∧ WellFormed ⟨"t"⟩ s) ∧
      ∃ run document, (r.execute d .null ⟨"t"⟩ s).1 = .ok run ∧
        (r.execute d .null ⟨"t"⟩ s).2.store.get? ⟨"t"⟩
          ("log_" ++ run.automation ++ "_" ++ run.runId) = some document ∧
        run.finishedAt = ⟨2027, 1, 1, 0, 0, 0, 500000000⟩ ∧
        RunResult.ofTree (.ofJson document.body) = .ok run := by
  intro d r s
  have hadmits : r.Admits d .null ⟨"t"⟩ s := ⟨rfl, rfl, rfl, [], rfl⟩
  have hs : WellFormed ⟨"t"⟩ s := by
    refine ⟨⟨List.forall_mem_nil _, fun response hresponse => ?_⟩, ?_⟩
    · cases List.mem_singleton.1 hresponse
      trivial
    · exact ⟨by decide, by decide, by decide, by decide⟩
  obtain ⟨run, document, hrun, hfound, -, -, hread⟩ :=
    @execute_logged r d .null ⟨"t"⟩ s hadmits rfl rfl trivial hs
  have hmoments : (r.execute d .null ⟨"t"⟩ s).1.toOption.map (fun run => run.moments) =
      some [⟨2026, 12, 31, 23, 59, 59, 0⟩, ⟨2027, 1, 1, 0, 0, 0, 500000000⟩,
        ⟨2026, 12, 31, 23, 59, 59, 0⟩, ⟨2026, 12, 31, 23, 59, 59, 0⟩,
        ⟨2026, 12, 31, 23, 59, 59, 0⟩, ⟨2027, 1, 1, 0, 0, 0, 500000000⟩] := by
    decide +kernel
  rw [hrun] at hmoments
  have hmoments : run.moments = _ := Option.some.inj hmoments
  refine ⟨⟨hadmits, hs⟩, run, document, hrun, hfound, ?_, hread ?_⟩
  · exact (List.cons.inj (List.cons.inj hmoments).2).1
  · rw [hmoments]
    simp [Moment.FourDigits]

end Runner

end Automation
