import Automation.Proofs.Execution.Loop

/-!
# The flag in the outputs

All outputs of a step are an object with a boolean flag (`Outputs.Flagged`), be it executed once, in
a loop or without success (`Execution.step_flagged`). So the flag is either true or false, and
`Outputs.succeeded` is what it says (`Outputs.Flagged.succeeded_iff`,
`Outputs.Flagged.not_succeeded_iff`).
-/

namespace Automation

namespace Outputs

/-- The outputs are an object, and their flag is a boolean. -/
def Flagged (outputs : Json) : Prop :=
  ∃ fields b, outputs = .object fields ∧ fields.lookup flag = some (.bool b)

/-- Outputs report success if their flag is true. -/
theorem succeeded_iff {outputs : Json} :
    succeeded outputs = true ↔ outputs.field? flag = some (.bool true) := by
  unfold succeeded
  cases outputs.field? flag with
  | none => simp
  | some v => cases v <;> simp [Json.asBool?]

/-- Outputs with a flag report no success if it is false. -/
theorem Flagged.not_succeeded_iff {outputs : Json} (h : Flagged outputs) :
    succeeded outputs = false ↔ outputs.field? flag = some (.bool false) := by
  obtain ⟨fields, b, rfl, hb⟩ := h
  cases b <;> simp [succeeded, Json.field?, Json.asBool?, hb]

/-- What a failure leaves has a flag. -/
theorem flagged_ofFault (fault : StepFault) : Flagged (ofFault fault) :=
  ⟨_, false, rfl, rfl⟩

/-- Outputs that have been normalized have a flag. -/
theorem flagged_normalize (v : Json) : Flagged (normalize v) := by
  cases v with
  | object fields => exact ⟨_, successOf fields, rfl, Fields.lookup_insert_self _ _ _⟩
  | null | bool | number | string | array => exact ⟨_, true, rfl, rfl⟩

/-- The outputs of a loop have a flag. -/
theorem flagged_loopEnd (e : LoopEnd) : Flagged e.outputs :=
  ⟨_, e.success, rfl, Execution.outputs_flag e⟩

/-- What an execution leaves has a flag if its outputs have one. -/
theorem flagged_ofResult {result : Except StepFault Json}
    (h : ∀ outputs, result = .ok outputs → Flagged outputs) : Flagged (ofResult result) := by
  cases result with
  | ok outputs => exact h outputs rfl
  | error fault => exact flagged_ofFault fault

end Outputs

namespace Execution

open Outputs

variable (c : Config) (tenant : Tenant)

/-- The outputs of a step that is executed once have a flag. -/
theorem once_flagged (step : Step) (context : Context) (s : Services) {outputs : Json}
    (h : (once c tenant step context s).1 = .ok outputs) : Flagged outputs := by
  unfold once at h
  dsimp only at h
  split at h
  · cases h
  · generalize performWith _ _ _ _ = performed at h
    obtain ⟨result, s'⟩ := performed
    cases result with
    | error fault => cases h
    | ok v =>
      cases h
      exact flagged_normalize v

/-- The outputs of a step that is executed in a loop have a flag. -/
theorem looped_flagged (step : Step) (loop : Loop) (p : Progress) {outputs : Json}
    (h : (looped c tenant step loop p).1 = .ok outputs) : Flagged outputs := by
  cases hi : loopItems c p.context loop with
  | error fault =>
    rw [looped_of_error c tenant hi] at h
    cases h
  | ok items =>
    obtain ⟨m, e, -, he⟩ := looped_of_items c tenant step hi
    rw [he] at h
    cases h
    exact flagged_loopEnd e

/-- The outputs of a step have a flag. -/
theorem step_flagged (step : Step) (p : Progress) :
    Flagged (Execution.step c tenant step p).1.outputs := by
  rw [step_outputs]
  refine flagged_ofResult fun outputs h => ?_
  unfold attempt at h
  split at h
  · exact looped_flagged c tenant step _ p h
  · exact once_flagged c tenant step p.context p.services h

end Execution

end Automation
