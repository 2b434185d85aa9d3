import Automation.Proofs.Execution.Outputs

/-!
# The shape of outcomes

The outputs of a step always are an object that reports the success of its outcome
(`Outputs.Reports`), and the outcome has an error exactly if it is without success and its outputs
hold a text as error. The outputs of the iterations of a loop are such objects too
(`LoopRun.flagged`), and all of them but perhaps the last report success
(`LoopRun.succeeded_of_mem_dropLast`). `Execution.step_coherent` says this of whatever is executed,
once or in a loop.
-/

namespace Automation

namespace Outputs

variable {outputs : Json}

/-- The outputs are an object whose flag is this boolean. -/
def Reports (outputs : Json) (success : Bool) : Prop :=
  ∃ fields, outputs = .object fields ∧ fields.lookup flag = some (.bool success)

/-- Outputs with a flag report what it says. -/
theorem Flagged.reports (h : Flagged outputs) : Reports outputs (succeeded outputs) := by
  obtain ⟨fields, b, rfl, hb⟩ := h
  refine ⟨fields, rfl, ?_⟩
  cases b <;> simp [succeeded, Json.field?, Json.asBool?, hb]

/-- The error in outputs is the text that they hold as error, if they report no success. -/
theorem error?_eq_some_iff {message : String} :
    error? outputs = some message ↔
      succeeded outputs = false ∧ outputs.field? "error" = some (.string message) := by
  unfold error?
  cases succeeded outputs with
  | true => simp
  | false =>
    cases outputs.field? "error" with
    | none => simp
    | some v => cases v <;> simp [Json.asString?]

end Outputs

namespace Execution

open Outputs

/-! ## The outputs of iterations -/

section
variable {c : Config} {tenant : Tenant} {step : Step} {condition : Option String}
  {context : Context} {items outs : List Json} {σ : Nat → Services} {output : Json}

/-- The output of an iteration is an object with a flag. -/
theorem LoopRun.flagged (h : LoopRun c tenant step condition context items outs σ)
    (hlength : outs.length ≤ items.length) (houtput : output ∈ outs) : Flagged output := by
  obtain ⟨i, hi, hout⟩ := List.mem_iff_getElem.1 houtput
  have hitem : items[i]? = some items[i] := List.getElem?_eq_getElem (Nat.lt_of_lt_of_le hi hlength)
  rw [h.output i _ output hitem (List.getElem?_eq_some_iff.2 ⟨hi, hout⟩)]
  exact flagged_ofResult fun _ hresult => once_flagged c tenant step _ _ hresult

/-- An iteration after which there has been another one reports success. -/
theorem LoopRun.succeeded_of_mem_dropLast
    (h : LoopRun c tenant step condition context items outs σ)
    (hlength : outs.length ≤ items.length) (houtput : output ∈ outs.dropLast) :
    succeeded output = true := by
  obtain ⟨i, hi, hout⟩ := List.mem_iff_getElem.1 houtput
  have hlast : i + 1 < outs.length := by
    rw [List.length_dropLast] at hi
    omega
  have hitem : items[i]? = some items[i] := List.getElem?_eq_getElem (by omega)
  rw [List.getElem_dropLast] at hout
  exact (h.passed i _ output hitem (List.getElem?_eq_some_iff.2 ⟨by omega, hout⟩) hlast).1

end

/-! ## The outcome of a step -/

variable (c : Config) (tenant : Tenant)

/-- A loop over a collection holds the outputs of its iterations. All are objects with a flag, and
all but the last report success. -/
theorem looped_reports (step : Step) (loop : Loop) (p : Progress) {items : List Json}
    (h : loopItems c p.context loop = .ok items) :
    ∃ outputs outs, (looped c tenant step loop p).1 = .ok outputs ∧
      outputs.field? "items" = some (.array outs) ∧
      (∀ output ∈ outs, ∃ success, Reports output success) ∧
      ∀ output ∈ outs.dropLast, Reports output true := by
  obtain ⟨m, e, hends, he⟩ := looped_of_items c tenant step h
  have hlength : e.items.length ≤ items.length := hends.length_items ▸ hends.le_length
  refine ⟨e.outputs, e.items, by rw [he], outputs_items e, fun output houtput => ?_,
    fun output houtput => ?_⟩
  · exact ⟨_, (hends.run.flagged hlength houtput).reports⟩
  · rw [← hends.run.succeeded_of_mem_dropLast hlength houtput]
    exact (hends.run.flagged hlength (List.dropLast_subset _ houtput)).reports

/-- The outputs of a step are an object whose flag is the success of the outcome. The outcome has an
error exactly if it is without success and a text stands as error in its outputs, and then it is
this text. If the step has a loop, the outputs are those of the failure to find a collection, or
they hold the outputs of the iterations: each is an object with a flag, and the flags of all but the
last are true. -/
theorem step_coherent (step : Step) (p : Progress) :
    let o := (Execution.step c tenant step p).1
    Reports o.outputs o.success ∧
    (∀ message, o.error = some message ↔
      o.success = false ∧ o.outputs.field? "error" = some (.string message)) ∧
    ∀ loop, step.loop = some loop →
      (∃ fault, loopItems c p.context loop = .error fault ∧ o.outputs = ofFault fault) ∨
      ∃ outs, o.outputs.field? "items" = some (.array outs) ∧
        (∀ output ∈ outs, ∃ success, Reports output success) ∧
        ∀ output ∈ outs.dropLast, Reports output true := by
  refine ⟨(step_flagged c tenant step p).reports, fun message => ?_, fun loop hloop => ?_⟩
  · rw [step_error]
    exact error?_eq_some_iff
  have hattempt : attempt c tenant step p = looped c tenant step loop p := by
    rw [attempt, hloop]
  rw [step_outputs, hattempt]
  cases hitems : loopItems c p.context loop with
  | error fault =>
    rw [looped_of_error c tenant hitems]
    exact .inl ⟨fault, rfl, rfl⟩
  | ok items =>
    obtain ⟨outputs, outs, houtputs, hfield, hreports⟩ := looped_reports c tenant step loop p hitems
    rw [houtputs]
    exact .inr ⟨outs, hfield, hreports⟩

end Execution

end Automation
