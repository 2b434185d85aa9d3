import Automation.Proofs.Context.History
import Automation.Proofs.Execution.Frame
import Automation.Proofs.Execution.Outputs
import Automation.Proofs.Run.Admission

/-!
# The steps of a run

`Runner.runStep_eq` says what the runner does with one step, and `Runner.runSteps_run` what it does
with all steps of a checked definition: it leaves results that stand for executions of the steps in
order, each in the context of the outputs before and with the services that the one before has left
(`StepRun`), and it goes on until one of them is stopped. `Runner.Completed` and
`Runner.execute_steps` say so of whole runs.
-/

namespace Automation

/-- The milliseconds that a step took. -/
def StepResult.millis (result : StepResult) : Int :=
  result.finishedAt.millisSince result.startedAt

/-- A context with the outputs of more steps, in order and under their names. -/
def Context.after (context : Context) (results : List StepResult) : Context :=
  { context with
    outputs := context.outputs ++ results.map fun result => (result.id, result.outputs) }

namespace Context

@[simp] theorem after_nil (context : Context) : context.after [] = context := by
  simp [after]

@[simp] theorem after_after (context : Context) (first second : List StepResult) :
    (context.after first).after second = context.after (first ++ second) := by
  simp [after]

/-- A result puts the name of its step last among the outputs. -/
theorem after_outputs_names (context : Context) (result : StepResult) :
    (context.after [result]).outputs.map (·.1) = context.outputs.map (·.1) ++ [result.id] := by
  simp [after]

end Context

namespace StepStatus

/-- A step is successful exactly if it has succeeded. -/
theorem ofOutcome_success_iff {succeeded halts : Bool} :
    ofOutcome succeeded halts = .success ↔ succeeded = true := by
  cases succeeded <;> cases halts <;> simp [ofOutcome]

/-- A step has stopped the run exactly if it has not succeeded and halts it. -/
theorem ofOutcome_stopped_iff {succeeded halts : Bool} :
    ofOutcome succeeded halts = .stopped ↔ succeeded = false ∧ halts = true := by
  cases succeeded <;> cases halts <;> simp [ofOutcome]

/-- A step has failed exactly if it has not succeeded and does not halt the run. -/
theorem ofOutcome_failed_iff {succeeded halts : Bool} :
    ofOutcome succeeded halts = .failed ↔ succeeded = false ∧ halts = false := by
  cases succeeded <;> cases halts <;> simp [ofOutcome]

end StepStatus

namespace Runner

/-- What a step leaves that is executed at some progress of a run. -/
def resultOf (r : Runner) (tenant : Tenant) (step : Step) (p : Progress) : StepResult :=
  (Execution.step r.config tenant step p).1.result (halts step)

/-- The event of a result at a position of a run. -/
def completion (run : RunResult) (position : Nat) (result : StepResult) : Event :=
  stepEvent run position result result.millis result.finishedAt

/-- The services after a step at a position of a run. -/
def servicesAfter (r : Runner) (run : RunResult) (position : Nat) (step : Step) (p : Progress) :
    Services :=
  (Execution.step r.config run.tenant step p).2.services.publish
    (completion run position (r.resultOf run.tenant step p))

/-- The first result that is stopped. -/
def halted? (results : List StepResult) : Option StepResult :=
  results.find? fun result => result.status = .stopped

/-- The results of steps of a run, the first of which has a position and a context; `σ i` are the
services before the step at index `i`. Each result is what the step leaves in the context of the
outputs before it (`result`), and its services are passed on to the next one (`services`). All steps
have a result (`complete`), unless one of the results is stopped, which is the last one
(`running`). -/
structure StepRun (r : Runner) (run : RunResult) (position : Nat) (context : Context)
    (steps : List Step) (results : List StepResult) (σ : Nat → Services) : Prop where
  length_le : results.length ≤ steps.length
  result : ∀ i step result, steps[i]? = some step → results[i]? = some result →
    result = r.resultOf run.tenant step ⟨context.after (results.take i), σ i⟩
  services : ∀ i step, steps[i]? = some step → i < results.length →
    σ (i + 1) = r.servicesAfter run (position + i) step ⟨context.after (results.take i), σ i⟩
  running : ∀ i result, results[i]? = some result → i + 1 < results.length →
    result.status ≠ .stopped
  complete : (∀ result ∈ results, result.status ≠ .stopped) → results.length = steps.length

/-- Services, and those that come after them. -/
def precede (s : Services) (σ : Nat → Services) : Nat → Services
  | 0 => s
  | i + 1 => σ i

section
variable {r : Runner} {run : RunResult} {position : Nat} {context : Context} {step : Step}
  {rest : List Step} {s : Services}

/-- Without steps there are no results. -/
theorem StepRun.nil (σ : Nat → Services) : StepRun r run position context [] [] σ where
  length_le := Nat.le_refl _
  result i step result hi := by simp at hi
  services i step hi := by simp at hi
  running i result hi := by simp at hi
  complete _ := rfl

/-- A step that is stopped is the last one with a result. -/
theorem StepRun.stop (h : (r.resultOf run.tenant step ⟨context, s⟩).status = .stopped) :
    StepRun r run position context (step :: rest) [r.resultOf run.tenant step ⟨context, s⟩]
      (precede s fun _ => r.servicesAfter run position step ⟨context, s⟩) where
  length_le := Nat.succ_le_succ (Nat.zero_le _)
  result i step result hs hi := by
    cases i with
    | zero =>
      cases hs
      cases hi
      simp [precede]
    | succ i => simp at hi
  services i step hs hi := by
    obtain rfl : i = 0 := by simpa using hi
    cases hs
    simp [precede]
  running i result hi hlast := by simp at hlast
  complete hall := absurd h (hall _ (List.mem_singleton_self _))

/-- A step that is not stopped is followed by the results of the steps after it. -/
theorem StepRun.cons {results : List StepResult} {σ : Nat → Services}
    (hgo : (r.resultOf run.tenant step ⟨context, s⟩).status ≠ .stopped)
    (hstart : σ 0 = r.servicesAfter run position step ⟨context, s⟩)
    (h : StepRun r run (position + 1)
      (context.after [r.resultOf run.tenant step ⟨context, s⟩]) rest results σ) :
    StepRun r run position context (step :: rest)
      (r.resultOf run.tenant step ⟨context, s⟩ :: results) (precede s σ) where
  length_le := Nat.succ_le_succ h.length_le
  result i step result hs hi := by
    cases i with
    | zero =>
      cases hs
      cases hi
      simp [precede]
    | succ i =>
      have hnext := h.result i step result hs hi
      rw [Context.after_after] at hnext
      exact hnext
  services i step hs hi := by
    cases i with
    | zero =>
      cases hs
      simp [precede, hstart]
    | succ i =>
      have hnext := h.services i step hs (Nat.lt_of_succ_lt_succ hi)
      rw [Context.after_after, Nat.add_assoc, Nat.add_comm 1 i] at hnext
      exact hnext
  running i result hi hlast := by
    cases i with
    | zero =>
      cases hi
      exact hgo
    | succ i => exact h.running i result hi (Nat.lt_of_succ_lt_succ hlast)
  complete hall :=
    congrArg (· + 1) (h.complete fun result hmem => hall result (List.mem_cons_of_mem _ hmem))

/-- Of a run the results need only know what its events say about it. -/
theorem StepRun.of_same {run' : RunResult} {steps : List Step} {results : List StepResult}
    {σ : Nat → Services} (h : StepRun r run position context steps results σ)
    (htenant : run'.tenant = run.tenant) (hevent : run'.event = run.event) :
    StepRun r run' position context steps results σ := by
  have hservices : r.servicesAfter run' = r.servicesAfter run := by
    funext position step p
    simp only [servicesAfter, completion, stepEvent, hevent, htenant]
  obtain ⟨hlength, hresult, hnext, hrunning, hcomplete⟩ := h
  rw [← htenant] at hresult
  rw [← hservices] at hnext
  exact ⟨hlength, hresult, hnext, hrunning, hcomplete⟩

/-- What every step keeps and holds of the services at the start holds of them before each step with
a result, and after the last one. -/
theorem StepRun.invariant {P : Services → Prop} {steps : List Step} {results : List StepResult}
    {σ : Nat → Services} (h : StepRun r run position context steps results σ)
    (hkept : ∀ position step p, P p.services → P (r.servicesAfter run position step p))
    (hstart : P (σ 0)) {i : Nat} (hi : i ≤ results.length) : P (σ i) := by
  induction i with
  | zero => exact hstart
  | succ i ih =>
    obtain ⟨step, hstep⟩ : ∃ step, steps[i]? = some step :=
      ⟨_, List.getElem?_eq_getElem (Nat.lt_of_lt_of_le hi h.length_le)⟩
    rw [h.services i step hstep hi]
    exact hkept _ _ _ (ih (Nat.le_of_succ_le hi))

end

variable (r : Runner)

/-- What the runner does with a step of a registered kind that has no outputs yet. -/
theorem runStep_eq (run : RunResult) (position : Nat) (step : Step) (p : Progress)
    (hkind : r.registry.includes step.kind = true)
    (hname : step.id ∉ p.context.outputs.map (·.1)) (hframe : p.context.frame = none) :
    r.runStep position step ⟨run, p⟩ =
      let result := r.resultOf run.tenant step p
      (.ok result.status, ⟨{ run with steps := run.steps ++ [result] },
        ⟨p.context.after [result], r.servicesAfter run position step p⟩⟩) := by
  unfold runStep
  rw [hkind]
  have hcontext := Execution.step_context r.config run.tenant step p hframe
  have hrecord : (Execution.step r.config run.tenant step p).2.context.record? step.id
      (Execution.step r.config run.tenant step p).1.outputs =
        some (p.context.after [r.resultOf run.tenant step p]) := by
    rw [hcontext]
    exact Context.record?_eq_some_iff.2 ⟨hname, rfl⟩
  dsimp only
  rw [hrecord]
  rfl

/-- What the runner does with the steps of a checked definition. -/
theorem runSteps_run (run : RunResult) (position : Nat) (steps : List Step) (p : Progress)
    (h : Definition.Checked r.registry (p.context.outputs.map (·.1)) steps)
    (hframe : p.context.frame = none) :
    ∃ results σ, σ 0 = p.services ∧ StepRun r run position p.context steps results σ ∧
      r.runSteps position steps ⟨run, p⟩ =
        (.ok (if (halted? results).isSome then .stopped else .success),
          ⟨{ run with
              steps := run.steps ++ results
              error := ((halted? results).map (haltMessage ·.id)).or run.error },
            ⟨p.context.after results, σ results.length⟩⟩) := by
  -- The names of the outputs recorded so far are those that the other steps must not have.
  induction steps generalizing run position p with
  | nil =>
    refine ⟨[], fun _ => p.services, rfl, .nil _, ?_⟩
    simp [runSteps, halted?]
  | cons step rest ih =>
    obtain ⟨hkind, hname⟩ := h.head
    rw [runSteps, runStep_eq r run position step p hkind hname hframe]
    generalize hresult : r.resultOf run.tenant step p = result
    have hid : result.id = step.id := by
      rw [← hresult]
      rfl
    dsimp only
    by_cases hstop : result.status = .stopped
    · refine ⟨[result], precede p.services fun _ => r.servicesAfter run position step p, rfl,
        ?_, ?_⟩
      · subst hresult
        exact .stop hstop
      · rw [hstop]
        simp [halted?, hstop, precede, hid]
    · have hrest : Definition.Checked r.registry
          ((p.context.after [result]).outputs.map (·.1)) rest := by
        refine h.tail.mono fun name hmem => ?_
        rw [Context.after_outputs_names, List.mem_append, List.mem_singleton, hid] at hmem
        exact List.mem_cons.2 hmem.symm
      obtain ⟨results, σ, hstart, hrun, heq⟩ := ih { run with steps := run.steps ++ [result] }
        (position + 1) ⟨p.context.after [result], r.servicesAfter run position step p⟩ hrest hframe
      refine ⟨result :: results, precede p.services σ, rfl, ?_, ?_⟩
      · subst hresult
        exact .cons hstop hstart (hrun.of_same rfl rfl)
      · have hhalted : halted? (result :: results) = halted? results := by
          simp [halted?, hstop]
        rw [hhalted]
        cases hstatus : result.status with
        | stopped => exact absurd hstatus hstop
        | success | failed =>
          dsimp only
          rw [heq]
          simp [precede]

/-! ## Whole runs -/

/-- A run as it ends at a moment with some results. -/
def ended (run : RunResult) (results : List StepResult) (now : Moment) : RunResult :=
  { run with
    status := if (halted? results).isSome then .stopped else .success
    steps := results
    error := (halted? results).map (haltMessage ·.id)
    finishedAt := now }

/-- A run that starts with a checked definition ends without a fault. -/
theorem start_run (d : Definition) (trigger : Json) (tenant : Tenant) (s : Services)
    (h : Definition.Checked r.registry [] d.steps) :
    let run := freshRun d trigger tenant s
    ∃ results σ, σ 0 = s.freshRunId.2.publish (startEvent d run s.now) ∧
      StepRun r run 1 (r.startContext run) d.steps results σ ∧
      r.start d run s.freshRunId.2 =
        (.ok (ended run results (σ results.length).now),
          r.finish (ended run results (σ results.length).now) (σ results.length)) := by
  intro run
  obtain ⟨results, σ, hstart, hrun, heq⟩ := r.runSteps_run { run with status := .running } 1 d.steps
    ⟨r.startContext run, s.freshRunId.2.publish (startEvent d run s.now)⟩ h rfl
  refine ⟨results, σ, hstart, hrun.of_same rfl rfl, ?_⟩
  have hbecome : run.become .running = .ok { run with status := .running } := rfl
  have hcourse : r.startCourse d { run with status := .running } s.freshRunId.2 =
      ⟨{ run with status := .running },
        ⟨r.startContext run, s.freshRunId.2.publish (startEvent d run s.now)⟩⟩ := rfl
  unfold start
  rw [hbecome]
  dsimp only
  rw [hcourse, heq]
  unfold conclude ended RunResult.become
  cases halted? results <;> rfl

/-- An admitted run that has ended: it has the fresh id, the payload as an object, and the results
and the services `σ` of its steps, which start with the event of its creation. -/
structure Completed (r : Runner) (d : Definition) (payload : Json) (tenant : Tenant) (s : Services)
    (run : RunResult) (σ : Nat → Services) : Prop where
  execute : r.execute d payload tenant s = (.ok run, r.finish run (σ run.steps.length))
  runId : run.runId = s.freshRunId.1
  automation : run.automation = d.id
  tenant : run.tenant = tenant
  trigger : payload? payload = some run.trigger
  status : run.status = if (halted? run.steps).isSome then .stopped else .success
  start : σ 0 = s.freshRunId.2.publish (startEvent d run run.startedAt)
  steps : StepRun r run 1 (r.startContext run) d.steps run.steps σ

/-- A run that has been admitted has succeeded or is stopped. -/
theorem Completed.ending {r : Runner} {d : Definition} {payload : Json} {tenant : Tenant}
    {s : Services} {run : RunResult} {σ : Nat → Services}
    (h : Completed r d payload tenant s run σ) : run.status = .success ∨ run.status = .stopped := by
  rw [h.status]
  split
  · exact .inr rfl
  · exact .inl rfl

/-- An admitted run does not fault. It starts at the moment of the call, and is finished at the one
after its last step. -/
theorem Admits.completed_at {r : Runner} {d : Definition} {payload : Json} {tenant : Tenant}
    {s : Services} (h : r.Admits d payload tenant s) :
    ∃ run σ, Completed r d payload tenant s run σ ∧ run.startedAt = s.now ∧
      run.finishedAt = (σ run.steps.length).now := by
  obtain ⟨warnings, hd⟩ := h.definition
  obtain ⟨trigger, hp⟩ := Option.isSome_iff_exists.1 h.payload
  obtain ⟨results, σ, hstart, hrun, heq⟩ :=
    r.start_run d trigger tenant s (Definition.check_checked hd)
  refine ⟨ended (freshRun d trigger tenant s) results (σ results.length).now, σ, ⟨?_, rfl, rfl, rfl,
    hp, rfl, hstart, hrun.of_same rfl rfl⟩, rfl, rfl⟩
  rw [r.execute_admitted h hp]
  exact heq

/-- A run that is admitted is completed. -/
theorem Admits.completed {r : Runner} {d : Definition} {payload : Json} {tenant : Tenant}
    {s : Services} (h : r.Admits d payload tenant s) :
    ∃ run σ, Completed r d payload tenant s run σ := by
  obtain ⟨run, σ, hrun, -⟩ := h.completed_at
  exact ⟨run, σ, hrun⟩

/-- What a result says about its step: the name and the kind, and whether it has succeeded, has
failed, or has failed and halts the run. A failure halts the run if the step says so or, where it
says nothing, if the kind of the step does. -/
structure Reports (step : Step) (result : StepResult) : Prop where
  id : result.id = step.id
  kind : result.kind = step.kind
  success : result.status = .success ↔ result.outputs.field? "success" = some (.bool true)
  stopped : result.status = .stopped ↔
    result.outputs.field? "success" = some (.bool false) ∧
      step.haltOnFailure.getD step.kind.descriptor.haltsOnFailure = true
  failed : result.status = .failed ↔
    result.outputs.field? "success" = some (.bool false) ∧
      step.haltOnFailure.getD step.kind.descriptor.haltsOnFailure = false

/-- The result of a step reports about it. -/
theorem resultOf_reports (tenant : Tenant) (step : Step) (p : Progress) :
    Reports step (r.resultOf tenant step p) := by
  have hflag : Outputs.Flagged (r.resultOf tenant step p).outputs :=
    Execution.step_flagged r.config tenant step p
  have hstatus : (r.resultOf tenant step p).status =
      .ofOutcome (Outputs.succeeded (r.resultOf tenant step p).outputs) (halts step) := rfl
  refine ⟨rfl, rfl, ?_, ?_, ?_⟩
  · rw [hstatus, StepStatus.ofOutcome_success_iff]
    exact Outputs.succeeded_iff
  · rw [hstatus, StepStatus.ofOutcome_stopped_iff]
    exact and_congr_left' hflag.not_succeeded_iff
  · rw [hstatus, StepStatus.ofOutcome_failed_iff]
    exact and_congr_left' hflag.not_succeeded_iff

/-- An admitted run ends with a result, not with a fault. The results of its steps are those of a
run of the steps of the definition, which starts with no outputs, outside of all loops, and in which
each step sees the outputs of those before under their names. They report about the steps in order.
The run is stopped if one of them is, which then is the last; otherwise all steps have a result and
the run has succeeded. -/
theorem execute_steps (d : Definition) (payload : Json) (tenant : Tenant) (s : Services)
    (h : r.Admits d payload tenant s) :
    ∃ (run : RunResult) (σ : Nat → Services),
      r.execute d payload tenant s = (.ok run, r.finish run (σ run.steps.length)) ∧
      run.tenant = tenant ∧ payload? payload = some run.trigger ∧
      σ 0 = s.freshRunId.2.publish (startEvent d run run.startedAt) ∧
      StepRun r run 1 (r.startContext run) d.steps run.steps σ ∧
      (∀ i : Nat, ((r.startContext run).after (run.steps.take i)).outputs =
          (run.steps.take i).map (fun result => (result.id, result.outputs)) ∧
        ((r.startContext run).after (run.steps.take i)).frame = none) ∧
      run.steps.length ≤ d.steps.length ∧
      (∀ (i : Nat) step result, d.steps[i]? = some step → run.steps[i]? = some result →
        Reports step result) ∧
      (∀ (i : Nat) result, run.steps[i]? = some result → result.status = .stopped →
        i + 1 = run.steps.length ∧ run.status = .stopped) ∧
      ((∀ result ∈ run.steps, result.status ≠ .stopped) →
        run.steps.length = d.steps.length ∧ run.status = .success) := by
  obtain ⟨warnings, hd⟩ := h.definition
  obtain ⟨trigger, hp⟩ := Option.isSome_iff_exists.1 h.payload
  obtain ⟨results, σ, hstart, hrun, heq⟩ :=
    r.start_run d trigger tenant s (Definition.check_checked hd)
  refine ⟨ended (freshRun d trigger tenant s) results (σ results.length).now, σ, ?_, rfl, hp,
    hstart, hrun.of_same rfl rfl, ?_, hrun.length_le, ?_, ?_, ?_⟩
  · rw [r.execute_admitted h hp]
    exact heq
  · intro i
    exact ⟨List.nil_append _, rfl⟩
  · intro i step result hs hi
    rw [hrun.result i step result hs hi]
    exact r.resultOf_reports tenant step _
  · intro i result hi hstop
    constructor
    · have hlt : i < results.length := (List.getElem?_eq_some_iff.1 hi).1
      rcases Nat.lt_or_ge (i + 1) results.length with hmore | hlast
      · exact absurd hstop (hrun.running i result hi hmore)
      · exact Nat.le_antisymm hlt hlast
    · have hhalted : (halted? results).isSome := by
        rw [halted?, List.find?_isSome]
        exact ⟨result, List.mem_of_getElem? hi, decide_eq_true hstop⟩
      simp [ended, hhalted]
  · intro hall
    refine ⟨hrun.complete hall, ?_⟩
    have hhalted : halted? results = none := by
      rw [halted?, List.find?_eq_none]
      intro result hmem
      simpa using hall result hmem
    simp [ended, hhalted]

/-- A run of a filter that fails without halting the run, a step that succeeds, and a filter that
halts the run as filters do, so that the last step is not executed. -/
theorem execute_steps_two :
    let filter (id : String) (halt : Option Bool) : Step :=
      { id, kind := .filter, inputs := ⟨[("field", .int 1), ("value", .int 2)], by decide⟩,
        haltOnFailure := halt }
    let collect (id : String) : Step :=
      { id, kind := .collect, inputs := ⟨[("collection", .array [.int 1])], by decide⟩ }
    let d : Definition :=
      { id := "a", tenant := ⟨"t"⟩, trigger := { event := .cron },
        steps := [filter "w" (some false), collect "x", filter "y" none, collect "z"] }
    let r : Runner := {}
    let s : Services := { clock := default }
    r.Admits d .null ⟨"t"⟩ s ∧
      ∃ run, (r.execute d .null ⟨"t"⟩ s).1 = .ok run ∧
        run.steps.map (fun result => (result.id, result.status)) =
          [("w", .failed), ("x", .success), ("y", .stopped)] ∧
        run.status = .stopped := by
  intro filter collect d r s
  have hcheck : d.check r.registry = .ok [] := by
    dsimp only [d, filter, collect]
    rfl
  have hadmits : r.Admits d .null ⟨"t"⟩ s := ⟨rfl, rfl, rfl, [], hcheck⟩
  have hresults : (r.execute d .null ⟨"t"⟩ s).1.toOption.map
      (fun run => run.steps.map fun result => (result.id, result.status)) =
        some [("w", .failed), ("x", .success), ("y", .stopped)] := by
    decide +kernel
  obtain ⟨run, σ, hrun, -, -, -, -, -, -, -, hlast, -⟩ :=
    r.execute_steps d .null ⟨"t"⟩ s hadmits
  rw [hrun] at hresults
  have hsteps : run.steps.map (fun result => (result.id, result.status)) =
      [("w", .failed), ("x", .success), ("y", .stopped)] := Option.some.inj hresults
  obtain ⟨result, hresult, hpair⟩ : ∃ result, run.steps[2]? = some result ∧
      (result.id, result.status) = ("y", .stopped) := by
    rw [← Option.map_eq_some_iff, ← List.getElem?_map, hsteps]
    rfl
  exact ⟨hadmits, run, by rw [hrun], hsteps,
    (hlast 2 result hresult (congrArg Prod.snd hpair)).2⟩

end Runner

end Automation
