import Automation.Proofs.Fields
import Automation.Proofs.Run.Steps
import Automation.Proofs.Template.Evaluated

/-!
# References to steps

The check of a definition and the runs of it find the step that a reference means in two ways: the
check among the steps of the definition, a run among the outputs that it has recorded so far. They
find the same step (`Runner.StepRun.step?_of_referred`), so a reference of which the check does not
warn finds outputs in every run.

They also read references in two ways. The check wants `steps.` in front, no blanks after it and no
brace at the end, which is what `Path.Dotted` asks for, and takes everything else for no reference.
A run reads any path whose first segment is `steps`, so it follows `steps["a"]`, of which the check
knows nothing. `Runner.execute_references` says of dotted references that without warnings they find
outputs in every run, and `Runner.execute_references_bracketed` has a run in which a reference of
the other kind finds none.
-/

namespace Automation

open Text

/-! ## Two readings of a reference -/

namespace Path

/-- A reference as the check reads it. -/
structure Dotted (e : String) : Prop where
  root : ∃ rest, trim e.toList = stepsRoot ++ rest ∧ rest.any isBlank = false
  last : e.toList.getLast? ≠ some '\x7d'

/-- Below the root of the steps the other segments follow. -/
theorem segments_stepsRoot (rest : List Char) :
    segments (stepsRoot ++ rest) = "steps" :: segments rest := by
  rfl

/-- Of a dotted reference the check reads the name or number that a run reads. -/
theorem Dotted.stepReference? {e reference : String} {path : List String} (h : Dotted e)
    (hsegments : segments (trim e.toList) = "steps" :: reference :: path) :
    ∃ inner, Path.stepReference? e = some (reference, inner) := by
  obtain ⟨rest, hrest, hblank⟩ := h.root
  rw [hrest, segments_stepsRoot, List.cons_inj_right] at hsegments
  unfold Path.stepReference?
  rw [hrest, stripStart?_append, Option.bind_eq_bind, Option.bind_some, hblank,
    hsegments]
  exact ⟨_, rfl⟩

/-- A dotted reference is not missed when a text is looked through. -/
theorem Dotted.not_missed {e : String} (h : Dotted e) : ¬Template.Missed e := by
  rintro (rfl | hlast)
  · obtain ⟨rest, hrest, -⟩ := h.root
    cases hrest
  · exact h.last hlast

end Path

/-- The path of a lookup is the expression without the blanks around it. -/
theorem Binding.trim_path {e path : String} (h : ofExpression e = .ok (.lookup path)) :
    trim path.toList = trim e.toList := by
  unfold ofExpression at h
  dsimp only at h
  split at h
  · cases h
    rw [String.toList_ofList, trim_trim]
  · repeat' split at h
    all_goals cases h

/-! ## What a missing warning says -/

namespace Definition

variable {d : Definition}

/-- Without warnings about steps there is none about any of them. -/
theorem warningsFrom_eq_nil {position : Nat} {steps : List Step}
    (h : d.warningsFrom position steps = []) {i : Nat} {step : Step} (hi : steps[i]? = some step) :
    d.stepWarnings (position + i) step = [] := by
  induction steps generalizing position i with
  | nil => simp at hi
  | cons first rest ih =>
    obtain ⟨hfirst, hrest⟩ := List.append_eq_nil_iff.1 h
    cases i with
    | zero =>
      cases hi
      exact hfirst
    | succ i =>
      rw [Nat.add_comm i 1, ← Nat.add_assoc]
      exact ih hrest hi

/-- A step that a reference means stands before the position of the reference, if nothing is wrong
with that. -/
theorem referred?_of_problem? {position : Nat} {e reference inner : String}
    (h : d.problem? position e = none)
    (href : Path.stepReference? e = some (reference, inner)) :
    ∃ q, d.referred? reference = some q ∧ q < position := by
  rw [problem?, href] at h
  cases hq : d.referred? reference with
  | none => simp [hq] at h
  | some q => exact ⟨q, rfl, by simpa [hq] using h⟩

/-- A step that a reference means stands before the step that refers to it, if there is no warning
about that. -/
theorem referred?_lt {position : Nat} {step : Step} {r : Template.Reference}
    {reference inner : String} (h : d.stepWarnings position step = [])
    (hr : r ∈ stepReferences step)
    (href : Path.stepReference? r.expression = some (reference, inner)) :
    ∃ q, d.referred? reference = some q ∧ q < position := by
  have hnone := List.filterMap_eq_nil_iff.1 h r hr
  rw [Option.map_eq_none_iff] at hnone
  exact referred?_of_problem? hnone href

end Definition

/-! ## Outputs by name and by number -/

namespace Runner

section
variable {r : Runner} {run : RunResult} {position : Nat} {context : Context} {steps : List Step}
  {results : List StepResult} {σ : Nat → Services}

/-- A result has the name of its step. -/
theorem StepRun.id_eq (h : StepRun r run position context steps results σ) {i : Nat}
    {result : StepResult} (hi : results[i]? = some result) :
    ∃ step, steps[i]? = some step ∧ result.id = step.id := by
  have hlt := Nat.lt_of_lt_of_le (List.getElem?_eq_some_iff.1 hi).1 h.length_le
  refine ⟨steps[i], List.getElem?_eq_getElem hlt, ?_⟩
  rw [h.result i _ _ (List.getElem?_eq_getElem hlt) hi]
  rfl

/-- The outputs after some results are those of the results, in order. -/
theorem outputs_after_getElem? (hempty : context.outputs = []) {i j : Nat} :
    (context.after (results.take i)).outputs[j]? =
      if j < i then results[j]?.map fun result => (result.id, result.outputs) else none := by
  rw [Context.after, hempty, List.nil_append, List.getElem?_map, List.getElem?_take]
  split <;> rfl

variable {d : Definition} (h : StepRun r run position context d.steps results σ)
  (hempty : context.outputs = [])
include h hempty

/-- A step finds the outputs of the one before it that a name means. -/
theorem StepRun.step?_of_position {reference : String} {q i : Nat} {result : StepResult}
    (hq : d.position? reference = some (q + 1)) (hqi : q < i)
    (hresult : results[q]? = some result) :
    (context.after (results.take i)).step? reference = some result.outputs := by
  obtain ⟨q', hfind, hq'⟩ := Option.map_eq_some_iff.1 hq
  obtain rfl : q' = q := Nat.succ.inj hq'
  obtain ⟨hbound, hname, hbefore⟩ := List.findIdx?_eq_some_iff_getElem.1 hfind
  have hlookup : (context.after (results.take i)).outputs.lookup reference =
      some result.outputs := by
    refine Fields.lookup_eq_of_getElem? (i := q') ?_ fun j field hj hfield => ?_
    · obtain ⟨step, hstep, hid⟩ := h.id_eq hresult
      rw [outputs_after_getElem? hempty, if_pos hqi, hresult, Option.map_some, hid]
      rw [List.getElem?_eq_getElem hbound, Option.some_inj] at hstep
      rw [← hstep, eq_of_beq hname]
    · rw [outputs_after_getElem? hempty, if_pos (Nat.lt_trans hj hqi)] at hfield
      obtain ⟨other, hother, rfl⟩ := Option.map_eq_some_iff.1 hfield
      obtain ⟨step, hstep, hid⟩ := h.id_eq hother
      obtain ⟨_, rfl⟩ := List.getElem?_eq_some_iff.1 hstep
      have hne := hbefore j hj
      rw [← hid] at hne
      exact fun heq => hne (beq_iff_eq.2 heq)
  unfold Context.step?
  rw [hlookup]

/-- A step finds nothing under a name that none of those before it has. -/
theorem StepRun.lookup_eq_none {name : String} {i : Nat}
    (hname : ∀ j step, j < i → d.steps[j]? = some step → step.id ≠ name) :
    (context.after (results.take i)).outputs.lookup name = none := by
  rw [List.lookup_eq_none_iff]
  intro field hfield
  obtain ⟨j, hj⟩ := List.mem_iff_getElem?.1 hfield
  rw [outputs_after_getElem? hempty] at hj
  split at hj
  · next hlt =>
    obtain ⟨other, hother, rfl⟩ := Option.map_eq_some_iff.1 hj
    obtain ⟨step, hstep, hid⟩ := h.id_eq hother
    have hne := hname j step hlt hstep
    rw [← hid] at hne
    exact bne_iff_ne.2 hne.symm
  · cases hj

/-- A step finds the outputs of the one before it that a number means, if no step has the number for
its name. -/
theorem StepRun.step?_of_index {reference : String} {q i : Nat} {result : StepResult}
    (hname : d.position? reference = none) (hq : Path.index? reference = some (q + 1)) (hqi : q < i)
    (hresult : results[q]? = some result) :
    (context.after (results.take i)).step? reference = some result.outputs := by
  have hfind := List.findIdx?_eq_none_iff.1 (Option.map_eq_none_iff.1 hname)
  have hlookup : (context.after (results.take i)).outputs.lookup reference = none :=
    h.lookup_eq_none hempty fun j step _ hstep =>
      ne_of_beq_false (hfind step (List.mem_of_getElem? hstep))
  unfold Context.step?
  rw [hlookup, hq]
  dsimp only
  rw [outputs_after_getElem? hempty, if_pos hqi, hresult]
  rfl

/-- The outputs that a step finds are those of the step that the check finds, if that comes before
it. -/
theorem StepRun.step?_of_referred {reference : String} {q i : Nat}
    (hq : d.referred? reference = some q) (hqi : q ≤ i) (hi : i ≤ results.length) :
    ∃ result, results[q - 1]? = some result ∧
      (context.after (results.take i)).step? reference = some result.outputs := by
  unfold Definition.referred? at hq
  cases hname : d.position? reference with
  | some p =>
    rw [hname] at hq
    cases hq
    obtain ⟨p, -, rfl⟩ := Option.map_eq_some_iff.1 hname
    have hresult := List.getElem?_eq_getElem (Nat.lt_of_lt_of_le hqi hi)
    exact ⟨_, hresult, h.step?_of_position hempty hname hqi hresult⟩
  | none =>
    rw [hname] at hq
    obtain ⟨hindex, hbound⟩ := Option.filter_eq_some_iff.1 hq
    obtain ⟨p, rfl⟩ := Nat.exists_eq_add_of_le' (of_decide_eq_true hbound).1
    have hresult := List.getElem?_eq_getElem (Nat.lt_of_lt_of_le hqi hi)
    exact ⟨_, hresult, h.step?_of_index hempty hname hindex hqi hresult⟩

end

/-! ## References without warnings -/

variable (r : Runner) {d : Definition} {payload : Json} {tenant : Tenant} {s : Services}

/-- In every admitted run of a definition without warnings, a step finds outputs for each dotted
reference that is evaluated in its inputs or in the input of its loop, in whatever iteration. -/
theorem execute_references (h : r.Admits d payload tenant s) (hd : d.check r.registry = .ok []) :
    ∃ (run : RunResult) (σ : Nat → Services),
      r.execute d payload tenant s = (.ok run, r.finish run (σ run.steps.length)) ∧
      StepRun r run 1 (r.startContext run) d.steps run.steps σ ∧
      ∀ (i : Nat) (step : Step) (e path reference : String) (inner : List String)
        (frame : Option LoopFrame),
        d.steps[i]? = some step → i < run.steps.length → e ∈ step.evaluated →
        Binding.ofExpression e = .ok (.lookup path) →
        Path.segments (trim path.toList) = "steps" :: reference :: inner → Path.Dotted e →
        ∃ outputs,
          (((r.startContext run).after (run.steps.take i)).withFrame frame).step? reference =
            some outputs := by
  obtain ⟨trigger, hp⟩ := Option.isSome_iff_exists.1 h.payload
  obtain ⟨results, σ, -, hrun, heq⟩ := r.start_run d trigger tenant s (Definition.check_checked hd)
  let run := ended (freshRun d trigger tenant s) results (σ results.length).now
  have hrun' : StepRun r run 1 (r.startContext run) d.steps run.steps σ := hrun.of_same rfl rfl
  refine ⟨run, σ, ?_, hrun', ?_⟩
  · rw [r.execute_admitted h hp]
    exact heq
  · intro i step e path reference inner frame hi hlt he hpath hsegments hdotted
    rw [Binding.trim_path hpath] at hsegments
    obtain ⟨inner', href⟩ := hdotted.stepReference? hsegments
    obtain ⟨ref, hmem, rfl⟩ := Step.exists_reference he hdotted.not_missed
    have hwarnings := Definition.warningsFrom_eq_nil (Definition.check_eq_ok_iff.1 hd).2 hi
    obtain ⟨q, hq, hlast⟩ := Definition.referred?_lt hwarnings hmem href
    obtain ⟨result, -, hstep⟩ := hrun'.step?_of_referred rfl hq (by omega) (Nat.le_of_lt hlt)
    exact ⟨result.outputs, hstep⟩

/-- A run of two steps, the second of which refers to the first one by its name. -/
theorem execute_references_two :
    let tenant : Tenant := ⟨"t"⟩
    let step : Step :=
      { id := "y", kind := .collect,
        inputs := ⟨[("collection", .string "$\x7b\x7b steps.x.count \x7d\x7d")], by decide⟩ }
    let d : Definition :=
      { id := "a", tenant, trigger := { event := .cron },
        steps := [{ id := "x", kind := .collect }, step] }
    let r : Runner := {}
    let s : Services := { clock := default }
    r.Admits d .null tenant s ∧ d.check r.registry = .ok [] ∧ Path.Dotted "steps.x.count" ∧
      ∃ run, (r.execute d .null tenant s).1 = .ok run ∧ run.steps.length = 2 ∧
        ∃ outputs, ((r.startContext run).after (run.steps.take 1)).step? "x" = some outputs := by
  intro tenant step d r s
  have hcheck : d.check r.registry = .ok [] := by
    dsimp only [d, step, tenant, r]
    rfl
  have hadmits : r.Admits d .null tenant s := ⟨rfl, rfl, rfl, [], hcheck⟩
  have hdotted : Path.Dotted "steps.x.count" := ⟨⟨"x.count".toList, rfl, rfl⟩, by decide⟩
  have hlength : (r.execute d .null tenant s).1.toOption.map (·.steps.length) = some 2 := by
    decide +kernel
  obtain ⟨run, σ, hrun, -, hfind⟩ := r.execute_references hadmits hcheck
  rw [hrun] at hlength
  have htwo : run.steps.length = 2 := Option.some.inj hlength
  exact ⟨hadmits, hcheck, hdotted, run, by rw [hrun], htwo,
    hfind 1 step "steps.x.count" "steps.x.count" "x" ["count"] none rfl (by omega)
      (List.mem_singleton_self _) rfl rfl hdotted⟩

/-- A run of one step that refers to another one, of which there is none, with brackets. There is no
warning, and the reference finds nothing. -/
theorem execute_references_bracketed :
    let tenant : Tenant := ⟨"t"⟩
    let e : String := "steps[\"missing\"].value"
    let step : Step :=
      { id := "a", kind := .collect,
        inputs :=
          ⟨[("collection", .string "$\x7b\x7b steps[\"missing\"].value \x7d\x7d")], by decide⟩ }
    let d : Definition := { id := "au", tenant, trigger := { event := .cron }, steps := [step] }
    let r : Runner := {}
    let s : Services := { clock := default }
    r.Admits d .null tenant s ∧ d.check r.registry = .ok [] ∧
      e ∈ step.evaluated ∧ Binding.ofExpression e = .ok (.lookup e) ∧
      Path.segments (trim e.toList) = ["steps", "missing", "value"] ∧
      ∃ run, (r.execute d .null tenant s).1 = .ok run ∧ run.steps.length = 1 ∧
        ((r.startContext run).after (run.steps.take 0)).step? "missing" = none := by
  intro tenant e step d r s
  have hcheck : d.check r.registry = .ok [] := by
    dsimp only [d, step, tenant, r]
    rfl
  have hsegments : Path.segments (trim e.toList) = ["steps", "missing", "value"] := by decide
  have hbinding : Binding.ofExpression e = .ok (.lookup e) := by
    dsimp only [e]
    rfl
  have hlength : (r.execute d .null tenant s).1.toOption.map (·.steps.length) = some 1 := by
    decide +kernel
  cases hrun : (r.execute d .null tenant s).1 with
  | error fault =>
    rw [hrun] at hlength
    cases hlength
  | ok run =>
    rw [hrun] at hlength
    exact ⟨⟨rfl, rfl, rfl, [], hcheck⟩, hcheck, List.mem_singleton_self _, hbinding, hsegments, run,
      rfl, Option.some.inj hlength, rfl⟩

end Runner

end Automation
