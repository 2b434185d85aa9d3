import Automation.Proofs.Context.Lookup
import Automation.Proofs.Run.References

/-!
# Warnings about references

The check warns of references that mean no step, or a step that does not come before the one that
refers to it. In a run such a reference finds no outputs, so it resolves to null
(`Runner.execute_warnings`), with one exception. The check takes a number for the name of a step
whenever some step of the definition has that name, while a run knows only the names of the steps
before and else takes it for a position. So if a later step has a number for its name, and there is
a step at that position already, the reference is ambiguous (`Definition.Ambiguous`): the check
means the later step, and the run finds the earlier one. That is the only exception
(`Runner.StepRun.step?_eq_none_iff`), and `Runner.execute_warnings_ambiguous` has a run with it.
-/

namespace Automation

open Text

/-- A reference to a step, as the check reads it, is a path to that step in a run. -/
theorem Path.segments_of_stepReference? {e reference inner : String}
    (h : stepReference? e = some (reference, inner)) :
    ∃ path, segments (trim e.toList) = "steps" :: reference :: path := by
  unfold stepReference? at h
  obtain ⟨rest, hrest, h⟩ := Option.bind_eq_some_iff.1 h
  obtain hcs := stripStart?_eq_some_iff.1 hrest
  split at h
  · cases h
  · split at h
    · cases h
    · next head path hsegments =>
      cases h
      exact ⟨path, by rw [hcs, segments_stepsRoot, hsegments]⟩

/-! ## What a warning says -/

namespace Definition

/-- A warning is about the reference of an expression in the inputs of the step at an index, or in
the input of its loop. -/
structure Warns (d : Definition) (w : Warning) (i : Nat) (step : Step) (e reference : String) :
    Prop where
  found : d.steps[i]? = some step
  name : w.step = step.id
  place : ⟨w.sourcePath, e⟩ ∈ stepReferences step
  reference : ∃ inner, Path.stepReference? e = some (reference, inner)
  problem : d.problem? (i + 1) e = some w.message

/-- A reference that means a later step by its name, for the check, and an earlier step by its
position, in a run. The step at the index is one of the later ones. -/
structure Ambiguous (d : Definition) (i : Nat) (reference : String) : Prop where
  name : ∃ q, d.position? reference = some q ∧ i < q
  number : ∃ n, Path.index? reference = some (n + 1) ∧ n < i

variable {d : Definition}

/-- A warning about some steps is one about one of them, at its position. -/
theorem mem_warningsFrom_iff {w : Warning} {position : Nat} {steps : List Step} :
    w ∈ d.warningsFrom position steps ↔
      ∃ i step, steps[i]? = some step ∧ w ∈ d.stepWarnings (position + i) step := by
  induction steps generalizing position with
  | nil => simp [warningsFrom]
  | cons first rest ih =>
    rw [warningsFrom, List.mem_append, ih]
    constructor
    · rintro (hfirst | ⟨i, step, hi, hw⟩)
      · exact ⟨0, first, rfl, hfirst⟩
      · refine ⟨i + 1, step, hi, ?_⟩
        rwa [Nat.add_comm i 1, ← Nat.add_assoc]
    · rintro ⟨i, step, hi, hw⟩
      cases i with
      | zero =>
        cases hi
        exact .inl hw
      | succ i =>
        refine .inr ⟨i, step, hi, ?_⟩
        rwa [Nat.add_comm i 1, ← Nat.add_assoc] at hw

/-- What is wrong with an expression is wrong with a reference. -/
theorem exists_reference_of_problem? {position : Nat} {e message : String}
    (h : d.problem? position e = some message) :
    ∃ reference inner, Path.stepReference? e = some (reference, inner) := by
  unfold problem? at h
  split at h
  · cases h
  · next reference inner href => exact ⟨reference, inner, href⟩

/-- The warnings about a definition are about its references, one for each of which something is
wrong. -/
theorem mem_warnings_iff {w : Warning} :
    w ∈ d.warnings ↔ ∃ i step e reference, d.Warns w i step e reference := by
  rw [warnings, mem_warningsFrom_iff]
  constructor
  · rintro ⟨i, step, hi, hw⟩
    obtain ⟨r, hr, hmessage⟩ := List.mem_filterMap.1 hw
    obtain ⟨message, hproblem, rfl⟩ := Option.map_eq_some_iff.1 hmessage
    rw [Nat.add_comm] at hproblem
    obtain ⟨reference, inner, href⟩ := exists_reference_of_problem? hproblem
    exact ⟨i, step, r.expression, reference, hi, rfl, hr, ⟨inner, href⟩, hproblem⟩
  · rintro ⟨i, step, e, reference, hw⟩
    refine ⟨i, step, hw.found, List.mem_filterMap.2 ⟨_, hw.place, ?_⟩⟩
    rw [Nat.add_comm, hw.problem, Option.map_some, ← hw.name]

/-- A reference of which the check warns means no step that comes before. -/
theorem Warns.late {w : Warning} {i : Nat} {step : Step} {e reference : String}
    (h : d.Warns w i step e reference) {q : Nat} (hq : d.referred? reference = some q) : i < q := by
  obtain ⟨inner, href⟩ := h.reference
  have hproblem := h.problem
  unfold problem? at hproblem
  rw [href] at hproblem
  dsimp only at hproblem
  rw [hq] at hproblem
  by_cases hlt : q < i + 1
  · simp [hlt] at hproblem
  · omega

/-- A step is not found later than it comes. -/
theorem exists_position? {j : Nat} {step : Step} (h : d.steps[j]? = some step) :
    ∃ q, d.position? step.id = some q ∧ q ≤ j + 1 := by
  obtain ⟨hj, rfl⟩ := List.getElem?_eq_some_iff.1 h
  cases hfind : d.steps.findIdx? (·.id == d.steps[j].id) with
  | none =>
    have hnone := List.findIdx?_eq_none_iff.1 hfind d.steps[j] (List.getElem_mem hj)
    simp at hnone
  | some q =>
    obtain ⟨_, _, hbefore⟩ := List.findIdx?_eq_some_iff_getElem.1 hfind
    refine ⟨q + 1, by rw [position?, hfind]; rfl, Nat.le_of_not_lt fun hlater => ?_⟩
    exact absurd (beq_self_eq_true _) (hbefore j (by omega))

end Definition

/-! ## What a run finds -/

namespace Runner

section
variable {r : Runner} {run : RunResult} {position : Nat} {context : Context}
  {results : List StepResult} {σ : Nat → Services} {d : Definition}

/-- A reference of which the check warns finds nothing while the step is executed that refers to it,
unless it is ambiguous. -/
theorem StepRun.step?_eq_none_iff (h : StepRun r run position context d.steps results σ)
    (hempty : context.outputs = []) {i : Nat} (hi : i ≤ results.length) {reference : String}
    (hlate : ∀ q, d.referred? reference = some q → i < q) :
    (context.after (results.take i)).step? reference = none ↔ ¬d.Ambiguous i reference := by
  have hname : (context.after (results.take i)).outputs.lookup reference = none := by
    refine h.lookup_eq_none hempty fun j step hj hstep heq => ?_
    obtain ⟨q, hq, hle⟩ := Definition.exists_position? hstep
    rw [heq] at hq
    have hlt := hlate q (by rw [Definition.referred?, hq])
    omega
  have hfinds : ∀ n, (context.after (results.take i)).outputs[n]? = none ↔ i ≤ n := by
    intro n
    rw [outputs_after_getElem? hempty]
    by_cases hn : n < i
    · rw [if_pos hn, List.getElem?_eq_getElem (by omega)]
      simp [hn]
    · rw [if_neg hn]
      exact iff_of_true rfl (by omega)
  unfold Context.step?
  rw [hname]
  constructor
  · rintro hnone ⟨-, n, hindex, hn⟩
    rw [hindex] at hnone
    exact absurd ((hfinds n).1 (Option.map_eq_none_iff.1 hnone)) (by omega)
  · intro hguard
    dsimp only
    split
    · next n hindex =>
      rw [Option.map_eq_none_iff, hfinds]
      refine Nat.le_of_not_lt fun hn => ?_
      -- A number that no step has for its name means a step for the check too, and not a late one.
      cases hq : d.position? reference with
      | none =>
        have hlength := h.length_le
        have hlt := hlate (n + 1) (by
          rw [Definition.referred?, hq]
          simp only [hindex, Option.filter_some]
          rw [if_pos (by simp; omega)])
        omega
      | some q =>
        exact hguard ⟨⟨q, hq, hlate q (by rw [Definition.referred?, hq])⟩, n, hindex, hn⟩
    · rfl

end

variable (r : Runner) {d : Definition} {payload : Json} {tenant : Tenant} {s : Services}

/-- The check of a definition warns of references, and in every admitted run these resolve to null
while the step that has the reference is executed, in whatever iteration, unless they are
ambiguous. -/
theorem execute_warnings {warnings : List Warning} (h : r.Admits d payload tenant s)
    (hd : d.check r.registry = .ok warnings) :
    ∃ (run : RunResult) (σ : Nat → Services),
      r.execute d payload tenant s = (.ok run, r.finish run (σ run.steps.length)) ∧
      StepRun r run 1 (r.startContext run) d.steps run.steps σ ∧
      (∀ w, w ∈ warnings ↔ ∃ i step e reference, d.Warns w i step e reference) ∧
      ∀ (w : Warning) (i : Nat) (step : Step) (e reference : String) (resolver : Resolver)
        (frame : Option LoopFrame),
        d.Warns w i step e reference → i < run.steps.length → ¬d.Ambiguous i reference →
        resolver.resolve (((r.startContext run).after (run.steps.take i)).withFrame frame) e =
          .ok .null := by
  obtain ⟨trigger, hp⟩ := Option.isSome_iff_exists.1 h.payload
  obtain ⟨results, σ, -, hrun, heq⟩ := r.start_run d trigger tenant s (Definition.check_checked hd)
  let run := ended (freshRun d trigger tenant s) results (σ results.length).now
  have hrun' : StepRun r run 1 (r.startContext run) d.steps run.steps σ := hrun.of_same rfl rfl
  refine ⟨run, σ, ?_, hrun', ?_, ?_⟩
  · rw [r.execute_admitted h hp]
    exact heq
  · intro w
    rw [← (Definition.check_eq_ok_iff.1 hd).2]
    exact Definition.mem_warnings_iff
  · intro w i step e reference resolver frame hw hlt hguard
    obtain ⟨inner, href⟩ := hw.reference
    obtain ⟨path, hsegments⟩ := Path.segments_of_stepReference? href
    have hnone : (((r.startContext run).after (run.steps.take i)).withFrame frame).step? reference =
        none :=
      (hrun'.step?_eq_none_iff rfl (Nat.le_of_lt hlt) fun _ => hw.late).2 hguard
    rw [resolver.resolve_of_segments _ hsegments (by simp [Context.roots]),
      Context.lookupSegments?, hnone]
    rfl

/-- A run of three steps, the second of which refers to the third one by its position. -/
theorem execute_warnings_three :
    let tenant : Tenant := ⟨"t"⟩
    let e : String := "steps.3.value"
    let step : Step :=
      { id := "y", kind := .collect,
        inputs :=
          ⟨[("collection", .object [("at", .string "$\x7b\x7b steps.3.value \x7d\x7d")])],
            by decide⟩ }
    let d : Definition :=
      { id := "au", tenant, trigger := { event := .cron },
        steps := [{ id := "x", kind := .collect }, step, { id := "z", kind := .collect }] }
    let w : Warning :=
      ⟨"y", "inputs.collection.at",
        "references step '3' which has not run yet; it resolves to null"⟩
    let r : Runner := {}
    let s : Services := { clock := default }
    r.Admits d .null tenant s ∧ d.check r.registry = .ok [w] ∧ d.Warns w 1 step e "3" ∧
      ¬d.Ambiguous 1 "3" ∧
      ∃ run, (r.execute d .null tenant s).1 = .ok run ∧ 1 < run.steps.length ∧
        ({} : Resolver).resolve ((r.startContext run).after (run.steps.take 1)) e =
          .ok .null := by
  intro tenant e step d w r s
  have hcheck : d.check r.registry = .ok [w] := by
    dsimp only [d, step, w, tenant, r]
    rfl
  have hadmits : r.Admits d .null tenant s := ⟨rfl, rfl, rfl, [w], hcheck⟩
  have hwarns : d.Warns w 1 step e "3" :=
    ⟨rfl, rfl, List.mem_singleton_self _, ⟨"value", by decide⟩, by decide⟩
  have hguard : ¬d.Ambiguous 1 "3" := by
    rintro ⟨⟨q, hq, -⟩, -⟩
    cases hq
  have hlength : (r.execute d .null tenant s).1.toOption.map (·.steps.length) = some 3 := by
    decide +kernel
  obtain ⟨run, σ, hrun, -, -, hnull⟩ := r.execute_warnings hadmits hcheck
  rw [hrun] at hlength
  have hthree : run.steps.length = 3 := Option.some.inj hlength
  have hlt : 1 < run.steps.length := by omega
  exact ⟨hadmits, hcheck, hwarns, hguard, run, by rw [hrun], hlt,
    hnull w 1 step e "3" {} none hwarns hlt hguard⟩

/-- A run of three steps, the second of which refers to the first one by its position. The third one
has the number for its name, so there is a warning that the reference resolves to null. -/
theorem execute_warnings_ambiguous :
    let tenant : Tenant := ⟨"t"⟩
    let e : String := "steps.1.value"
    let step : Step :=
      { id := "b", kind := .collect,
        inputs :=
          ⟨[("collection", .object [("at", .string "$\x7b\x7b steps.1.value \x7d\x7d")])],
            by decide⟩ }
    let d : Definition :=
      { id := "au", tenant, trigger := { event := .cron },
        steps := [
          { id := "a", kind := .collect, inputs := ⟨[("collection", .string "x")], by decide⟩ },
          step,
          { id := "1", kind := .collect, inputs := ⟨[("collection", .string "y")], by decide⟩ }] }
    let w : Warning :=
      ⟨"b", "inputs.collection.at",
        "references step '1' which has not run yet; it resolves to null"⟩
    let r : Runner := {}
    let s : Services := { clock := default }
    r.Admits d .null tenant s ∧ d.check r.registry = .ok [w] ∧ d.Warns w 1 step e "1" ∧
      ∃ run, (r.execute d .null tenant s).1 = .ok run ∧ run.steps.length = 3 ∧
        ({} : Resolver).resolve ((r.startContext run).after (run.steps.take 1)) e =
          .ok (.string "x") := by
  intro tenant e step d w r s
  have hcheck : d.check r.registry = .ok [w] := by
    dsimp only [d, step, w, tenant, r]
    rfl
  have hwarns : d.Warns w 1 step e "1" :=
    ⟨rfl, rfl, List.mem_singleton_self _, ⟨"value", by decide⟩, by decide⟩
  let found (run : RunResult) : Option String :=
    (({} : Resolver).resolve ((r.startContext run).after (run.steps.take 1)) e).toOption.bind
      Json.asString?
  have hfound : (r.execute d .null tenant s).1.toOption.map
      (fun run => (run.steps.length, found run)) = some (3, some "x") := by
    decide +kernel
  refine ⟨⟨rfl, rfl, rfl, [w], hcheck⟩, hcheck, hwarns, ?_⟩
  cases hrun : (r.execute d .null tenant s).1 with
  | error fault =>
    rw [hrun] at hfound
    cases hfound
  | ok run =>
    rw [hrun] at hfound
    obtain ⟨hlength, hvalue⟩ := Prod.mk.inj (Option.some.inj hfound)
    refine ⟨run, rfl, hlength, ?_⟩
    obtain ⟨v, hv, htext⟩ := Option.bind_eq_some_iff.1 hvalue
    cases v <;> cases htext
    cases hresolve : ({} : Resolver).resolve ((r.startContext run).after (run.steps.take 1)) e with
    | error fault =>
      rw [hresolve] at hv
      cases hv
    | ok value =>
      rw [hresolve] at hv
      cases hv
      rfl

end Runner

end Automation
