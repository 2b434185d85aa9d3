import Automation.Context
import Automation.Definition.Check
import Automation.Proofs.Fields

/-!
# What a context keeps

Outputs are recorded one step after the other, each under a name that has none yet. So what a
context has recorded is never changed (`Context.recordAll?_eq_some_iff`), and the names of the
outputs in a context that a run can build differ (`Context.Reachable.names_nodup`).

References share one text between names and numbers, names first, and the name of a step may be a
number. So a number that has found the outputs of the step at that position finds other outputs as
soon as a step with this number for its name has finished. `Context.step?_kept` says that this is
the only way in which the outputs that a reference finds change, and `Context.step?_renumbered` has
a context in which they do.
-/

namespace Automation.Context

/-- The context after more steps have finished, in order; nothing if one of them has outputs
already. -/
def recordAll? (ctx : Context) : List (String × Json) → Option Context
  | [] => some ctx
  | (step, outputs) :: rest => (ctx.record? step outputs).bind fun next => next.recordAll? rest

/-- The contexts that can be built: one that is fresh has an environment whose names differ and no
outputs; outputs are recorded, and loops put frames into the context and take them away again. -/
inductive Reachable : Context → Prop
  | fresh (tenant : Tenant) (trigger : Json) (environment : List (String × String))
      (h : (environment.map (·.1)).Nodup) : Reachable { tenant, trigger, environment }
  | record {ctx next : Context} {step : String} {outputs : Json} (h : Reachable ctx)
      (hnext : ctx.record? step outputs = some next) : Reachable next
  | withFrame {ctx : Context} (h : Reachable ctx) (frame : Option LoopFrame) :
      Reachable (ctx.withFrame frame)

variable {ctx next later : Context} {steps : List (String × Json)} {reference step : String}
  {outputs : Json}

/-- Outputs are recorded at the end, under a name that is not taken. -/
theorem record?_eq_some_iff :
    ctx.record? step outputs = some next ↔
      step ∉ ctx.outputs.map (·.1) ∧
        next = { ctx with outputs := ctx.outputs ++ [(step, outputs)] } := by
  rw [← Fields.lookup_eq_none_iff, record?]
  cases ctx.outputs.lookup step with
  | none => simp [eq_comm]
  | some taken => simp

/-- Outputs of more steps are recorded at the end, under names that are not taken and differ. -/
theorem recordAll?_eq_some_iff :
    ctx.recordAll? steps = some later ↔
      (∀ name ∈ steps.map (·.1), name ∉ ctx.outputs.map (·.1)) ∧ (steps.map (·.1)).Nodup ∧
        later = { ctx with outputs := ctx.outputs ++ steps } := by
  induction steps generalizing ctx with
  | nil => simp [recordAll?, eq_comm]
  | cons first rest ih =>
    obtain ⟨step, outputs⟩ := first
    rw [recordAll?, Option.bind_eq_some_iff]
    constructor
    · rintro ⟨next, hnext, hrest⟩
      obtain ⟨hfirst, rfl⟩ := record?_eq_some_iff.1 hnext
      obtain ⟨hfresh, hnodup, rfl⟩ := ih.1 hrest
      simp only [List.map_append, List.mem_append, not_or] at hfresh
      refine ⟨List.forall_mem_cons.2 ⟨hfirst, fun name hname => (hfresh name hname).1⟩, ?_, ?_⟩
      · exact List.nodup_cons.2 ⟨fun hmem => (hfresh step hmem).2 (by simp), hnodup⟩
      · simp
    · rintro ⟨hfresh, hnodup, rfl⟩
      obtain ⟨hfirst, hothers⟩ := List.forall_mem_cons.1 hfresh
      obtain ⟨hne, hnodup⟩ := List.nodup_cons.1 hnodup
      refine ⟨_, record?_eq_some_iff.2 ⟨hfirst, rfl⟩, ih.2 ⟨?_, hnodup, by simp⟩⟩
      intro name hname hmem
      rw [List.map_append, List.mem_append] at hmem
      rcases hmem with hmem | hmem
      · exact hothers name hname hmem
      · obtain rfl : name = step := by simpa using hmem
        exact hne hname

/-- The names of outputs differ, as do those of the environment. -/
theorem Reachable.names_nodup (h : ctx.Reachable) :
    (ctx.outputs.map (·.1)).Nodup ∧ (ctx.environment.map (·.1)).Nodup := by
  induction h with
  | fresh tenant trigger environment h => exact ⟨List.nodup_nil, h⟩
  | record h hnext ih =>
    obtain ⟨hfresh, rfl⟩ := record?_eq_some_iff.1 hnext
    refine ⟨?_, ih.2⟩
    rw [List.map_append, List.nodup_append]
    refine ⟨ih.1, by simp, fun name hname other hother heq => ?_⟩
    rw [List.map_singleton, List.mem_singleton] at hother
    rw [heq, hother] at hname
    exact hfresh hname
  | withFrame h frame ih => exact ih

/-- Recording the outputs of more steps leads from contexts that can be built to others. -/
theorem Reachable.recordAll? (h : ctx.Reachable) (hlater : ctx.recordAll? steps = some later) :
    later.Reachable := by
  induction steps generalizing ctx with
  | nil =>
    cases hlater
    exact h
  | cons first rest ih =>
    obtain ⟨next, hnext, hrest⟩ := Option.bind_eq_some_iff.1 hlater
    exact ih (h.record hnext) hrest

/-- What a reference finds after more steps have finished: the outputs of the step among them that
has the reference for its name, and if there is none what it found before. -/
theorem step?_recordAll? (h : ctx.recordAll? steps = some later)
    (hstep : ctx.step? reference = some outputs) :
    later.step? reference = some ((steps.lookup reference).getD outputs) := by
  obtain ⟨hfresh, -, rfl⟩ := recordAll?_eq_some_iff.1 h
  unfold step? at hstep ⊢
  rw [List.lookup_append]
  cases hname : ctx.outputs.lookup reference with
  | some found =>
    have hnew : steps.lookup reference = none := by
      rw [Fields.lookup_eq_none_iff]
      intro hmem
      rw [Fields.lookup_eq_none_iff.2 (hfresh reference hmem)] at hname
      cases hname
    rw [hname] at hstep
    rw [hnew]
    exact hstep
  | none =>
    rw [hname] at hstep
    cases hnew : steps.lookup reference with
    | some newer => rfl
    | none =>
      cases hindex : Path.index? reference with
      | none =>
        rw [hindex] at hstep
        cases hstep
      | some n =>
        rw [hindex] at hstep
        cases n with
        | zero => cases hstep
        | succ n =>
          obtain ⟨field, hfield, -⟩ := Option.map_eq_some_iff.1 hstep
          have hlt : n < ctx.outputs.length := (List.getElem?_eq_some_iff.1 hfield).1
          dsimp only [Option.or_none]
          rw [List.getElem?_append_left hlt]
          exact hstep

/-- What a reference finds stays what it finds when more steps finish, unless it is a number that
one of these steps has for its name; then it finds the outputs of that step. -/
theorem step?_kept (h : ctx.recordAll? steps = some later)
    (hstep : ctx.step? reference = some outputs) :
    (Path.index? reference = none ∨ reference ∉ steps.map (·.1) →
      later.step? reference = some outputs) ∧
    ∀ newer, (reference, newer) ∈ steps → later.step? reference = some newer := by
  obtain ⟨hfresh, hnodup, -⟩ := recordAll?_eq_some_iff.1 h
  have hlater := step?_recordAll? h hstep
  constructor
  · intro hguard
    have hnew : reference ∉ steps.map (·.1) := by
      rcases hguard with hindex | hnew
      · -- A reference that is no number has found a name, which no later step has.
        intro hmem
        rw [step?, Fields.lookup_eq_none_iff.2 (hfresh reference hmem), hindex] at hstep
        cases hstep
      · exact hnew
    rw [hlater, Fields.lookup_eq_none_iff.2 hnew]
    rfl
  · intro newer hmem
    rw [hlater, Fields.lookup_of_mem hnodup hmem]
    rfl

/-- Two more steps finish after one that has a number for its name. That one is still found by its
name, and no longer by its position, which is the name of another step now. -/
theorem step?_kept_two :
    let ctx : Context := { tenant := ⟨"t"⟩, trigger := .null, outputs := [("2", .int 1)] }
    ∃ later, ctx.recordAll? [("b", .int 2), ("1", .int 3)] = some later ∧
      ctx.step? "2" = some (.int 1) ∧ later.step? "2" = some (.int 1) ∧
      ctx.step? "1" = some (.int 1) ∧ later.step? "1" = some (.int 3) := by
  intro ctx
  have hname : ctx.step? "2" = some (.int 1) := rfl
  have hnumber : ctx.step? "1" = some (.int 1) := rfl
  obtain ⟨later, hlater⟩ :
      ∃ later, ctx.recordAll? [("b", .int 2), ("1", .int 3)] = some later := ⟨_, rfl⟩
  exact ⟨later, hlater, hname, (step?_kept hlater hname).1 (.inr (by decide)), hnumber,
    (step?_kept hlater hnumber).2 (.int 3) (by simp)⟩

/-- The first of two steps is found by its position until the second one has finished, which has
that number for its name. -/
theorem step?_renumbered :
    let start : Context := { tenant := ⟨"t"⟩, trigger := .null }
    Step.isName "a" = true ∧ Step.isName "1" = true ∧
      ∃ ctx later, start.recordAll? [("a", .string "x")] = some ctx ∧
        ctx.step? "1" = some (.string "x") ∧
        ctx.recordAll? [("1", .string "y")] = some later ∧
        later.step? "1" = some (.string "y") ∧ later.step? "1" ≠ ctx.step? "1" := by
  intro start
  refine ⟨by decide, by decide, _, _, rfl, rfl, rfl, rfl, ?_⟩
  change some (Json.string "y") ≠ some (Json.string "x")
  simp

end Automation.Context
