import Automation.Proofs.Run.Admission
import Automation.Proofs.Run.Isolation

/-!
# Runs do not look ahead

The results of the first steps of a run do not depend on the steps after these. Running some steps
leaves, as far as the first `k` of them go, the results of running only those
(`Runner.runSteps_take`), and a run at its start knows of its definition no more than the id and the
tenant; the one thing in which the services differ then is the event of its creation. So the runs of
two definitions that share their first steps have the same results there (`Runner.execute_prefix`).
-/

namespace Automation

namespace Runner

open Services

/-- The results of the steps of a run, whether it ends with a fault or not. -/
def resultsOf : Except RunFault RunResult → List StepResult
  | .ok run => run.steps
  | .error fault => fault.run.steps

variable (r : Runner)

/-! ## Steps -/

section
variable {r} {position : Nat} {step : Step} {c c' : Course}

/-- A step that faults leaves the run as it was. -/
theorem runStep_error {fault : EngineFault} (h : r.runStep position step c = (.error fault, c')) :
    c'.run = c.run := by
  unfold runStep at h
  split at h
  · cases h
    rfl
  · dsimp only at h
    split at h
    · cases h
      rfl
    · cases h

/-- A step that does not fault adds one result to those of the run. -/
theorem runStep_ok {status : StepStatus} (h : r.runStep position step c = (.ok status, c')) :
    ∃ result, c'.run.steps = c.run.steps ++ [result] := by
  unfold runStep at h
  split at h
  · cases h
  · dsimp only at h
    split at h
    · cases h
    · cases h
      exact ⟨_, rfl⟩

end

/-- Steps only add results to those of the run. -/
theorem runSteps_extends (position : Nat) (steps : List Step) (c : Course) :
    c.run.steps <+: (r.runSteps position steps c).2.run.steps := by
  induction steps generalizing position c with
  | nil => exact List.prefix_refl _
  | cons step rest ih =>
    rw [runSteps]
    cases h : r.runStep position step c with
    | mk verdict c' =>
      cases verdict with
      | error fault =>
        dsimp only
        exact ⟨[], by rw [List.append_nil, runStep_error h]⟩
      | ok status =>
        obtain ⟨result, hresult⟩ := runStep_ok h
        have hfirst : c.run.steps <+: c'.run.steps := by
          rw [hresult]
          exact List.prefix_append _ _
        cases status with
        | stopped => exact hfirst
        | success | failed => exact hfirst.trans (ih (position + 1) c')

/-- Of the results of some steps the first `k` are those of the first `k` steps alone. -/
theorem runSteps_take (position : Nat) (steps : List Step) (c : Course) (k : Nat) :
    (r.runSteps position steps c).2.run.steps.take (c.run.steps.length + k) =
      (r.runSteps position (steps.take k) c).2.run.steps := by
  -- The first of the steps that are left has its result among those wanted, unless none is.
  induction steps generalizing position c k with
  | nil =>
    rw [List.take_nil, runSteps]
    exact List.take_of_length_le (Nat.le_add_right _ _)
  | cons step rest ih =>
    cases k with
    | zero =>
      have hprefix := r.runSteps_extends position (step :: rest) c
      exact (List.prefix_iff_eq_take.1 hprefix).symm
    | succ k =>
      rw [List.take_succ_cons, runSteps, runSteps]
      cases h : r.runStep position step c with
      | mk verdict c' =>
        cases verdict with
        | error fault =>
          dsimp only
          rw [runStep_error h]
          exact List.take_of_length_le (Nat.le_add_right _ _)
        | ok status =>
          obtain ⟨result, hresult⟩ := runStep_ok h
          have hlength : c'.run.steps.length = c.run.steps.length + 1 := by simp [hresult]
          have hcount : c.run.steps.length + (k + 1) = c'.run.steps.length + k := by omega
          rw [hcount]
          cases status with
          | stopped => exact List.take_of_length_le (Nat.le_add_right _ _)
          | success | failed => exact ih (position + 1) c' k

/-! ## Whole runs -/

/-- A run that ends keeps the results of its steps. -/
theorem resultsOf_conclude (ending : Except EngineFault RunStatus) (run : RunResult)
    (s : Services) : resultsOf (r.conclude ending run s).1 = run.steps := by
  unfold conclude
  dsimp only
  split
  · rfl
  · split
    · rfl
    · next hbecome =>
      unfold RunResult.become at hbecome
      split at hbecome
      · cases hbecome
        rfl
      · cases hbecome

/-- The course of an admitted run before its first step. -/
def firstCourse (d : Definition) (trigger : Json) (tenant : Tenant) (s : Services) : Course :=
  r.startCourse d { freshRun d trigger tenant s with status := .running } s.freshRunId.2

/-- The first results of an admitted run are those of its first steps. -/
theorem Admits.results_take {r : Runner} {d : Definition} {payload trigger : Json}
    {tenant : Tenant} {s : Services} (h : r.Admits d payload tenant s)
    (hp : payload? payload = some trigger) (k : Nat) :
    (resultsOf (r.execute d payload tenant s).1).take k =
      (r.runSteps 1 (d.steps.take k) (r.firstCourse d trigger tenant s)).2.run.steps := by
  have hbecome : (freshRun d trigger tenant s).become .running =
      .ok { freshRun d trigger tenant s with status := .running } := rfl
  have hempty : (r.firstCourse d trigger tenant s).run.steps = [] := rfl
  have htake := r.runSteps_take 1 d.steps (r.firstCourse d trigger tenant s) k
  rw [hempty, List.length_nil, Nat.zero_add] at htake
  rw [r.execute_admitted h hp, start, hbecome, ← htake]
  exact congrArg (List.take k) (r.resultsOf_conclude _ _ _)

/-- A run that is not admitted has no results. -/
theorem resultsOf_of_not_admits {d : Definition} {payload : Json} {tenant : Tenant} {s : Services}
    (h : ¬ r.Admits d payload tenant s) : resultsOf (r.execute d payload tenant s).1 = [] := by
  rcases r.execute_of_not_admits h with ⟨payload', fault, heq⟩ | ⟨payload', reason, heq⟩
  · rw [heq]
    rfl
  · rw [heq]
    rfl

/-- States that differ at most in the events of the past are alike after one more event each. -/
theorem alike_publish (tenant : Tenant) (s : Services) (e e' : Event) :
    Services.Alike tenant (s.publish e) (s.publish e') := by
  unfold publish
  split
  · constructor <;> rfl
  · constructor <;> rfl

/-- At its start a run knows its definition by the id and the tenant only. -/
theorem runSteps_firstCourse {d d' : Definition} (hid : d'.id = d.id) (trigger : Json)
    (tenant : Tenant) (s : Services) (steps : List Step) :
    (r.runSteps 1 steps (r.firstCourse d' trigger tenant s)).2.run =
      (r.runSteps 1 steps (r.firstCourse d trigger tenant s)).2.run := by
  have hfresh : freshRun d' trigger tenant s = freshRun d trigger tenant s := by
    rw [freshRun, pendingRun, hid]
    rfl
  let run : RunResult := { freshRun d trigger tenant s with status := .running }
  have halike := alike_publish tenant s.freshRunId.2 (startEvent d run s.freshRunId.2.now)
    (startEvent d' run s.freshRunId.2.now)
  unfold firstCourse
  rw [hfresh]
  exact (runSteps_matches (r := r) ⟨rfl, rfl, rfl⟩ 1 steps rfl (r.startContext run)
    halike.inStep).run

/-- Two definitions with the same id and tenant that pass their check and share their first `k`
steps: whatever comes after these, their runs have the same results for the first `k` steps, and
execute the same number of them. The runs start with the same payload and services; that includes
the clock, the fresh ids and the answers of webhooks. -/
theorem execute_prefix {d d' : Definition} {warnings warnings' : List Warning} {k : Nat}
    (hid : d'.id = d.id) (htenant : d'.tenant = d.tenant)
    (hcheck : d.check r.registry = .ok warnings) (hcheck' : d'.check r.registry = .ok warnings')
    (hsteps : d'.steps.take k = d.steps.take k) (payload : Json) (tenant : Tenant) (s : Services) :
    let results := resultsOf (r.execute d payload tenant s).1
    let results' := resultsOf (r.execute d' payload tenant s).1
    results'.take k = results.take k ∧ min k results'.length = min k results.length := by
  intro results results'
  have hsame : results'.take k = results.take k := by
    by_cases h : r.Admits d payload tenant s
    · have h' : r.Admits d' payload tenant s :=
        ⟨htenant.trans h.owner, h.payload, h.quota, warnings', hcheck'⟩
      obtain ⟨trigger, hp⟩ := Option.isSome_iff_exists.1 h.payload
      rw [h.results_take hp, h'.results_take hp, hsteps, r.runSteps_firstCourse hid]
    · have h' : ¬ r.Admits d' payload tenant s := fun h' =>
        h ⟨htenant.symm.trans h'.owner, h'.payload, h'.quota, warnings, hcheck⟩
      dsimp only [results, results']
      rw [r.resultsOf_of_not_admits h, r.resultsOf_of_not_admits h']
  refine ⟨hsame, ?_⟩
  rw [← List.length_take, hsame, List.length_take]

/-- Two runs whose first step is the same, and is all that one of them has. -/
theorem execute_prefix_two :
    let d : Definition :=
      { id := "a", tenant := ⟨"t"⟩, trigger := { event := .cron },
        steps := [{ id := "x", kind := .filter, haltOnFailure := some false }] }
    let d' : Definition :=
      { id := "a", tenant := ⟨"t"⟩, trigger := { event := .cron },
        steps := [{ id := "x", kind := .filter, haltOnFailure := some false },
          { id := "y", kind := .collect }] }
    let r : Runner := {}
    let s : Services := { clock := default }
    d'.steps.take 1 = d.steps.take 1 ∧
      (∃ warnings, d.check r.registry = .ok warnings) ∧
      (∃ warnings, d'.check r.registry = .ok warnings) ∧
      (resultsOf (r.execute d' .null ⟨"t"⟩ s).1).take 1 =
        (resultsOf (r.execute d .null ⟨"t"⟩ s).1).take 1 := by
  intro d d' r s
  have hcheck : d.check r.registry = .ok [] := rfl
  have hcheck' : d'.check r.registry = .ok [] := rfl
  have hid : d'.id = d.id := rfl
  have hsteps : d'.steps.take 1 = d.steps.take 1 := rfl
  exact ⟨hsteps, ⟨[], hcheck⟩, ⟨[], hcheck'⟩,
    (r.execute_prefix hid rfl hcheck hcheck' hsteps .null ⟨"t"⟩ s).1⟩

end Runner

end Automation
