import Automation.Proofs.Run.Warnings

/-!
# The step that a reference means

A reference means the step of that name, and where the definition has none the step of that number,
however the number is spelled (`Definition.Means`). It means at most one step
(`Definition.Means.unique`). That is how the check of a definition reads it, over all steps
(`Definition.means_of_referred?`). A run looks it up among the outputs that it has recorded so far,
where a name may be missing that the definition has. It never picks another step: if the check does
not warn of a reference, the outputs that a run finds are those that it has recorded for the step
that the check means (`Runner.execute_means`).
-/

namespace Automation

namespace Definition

/-- A reference means the step at an index: the one that has the reference for its name, or if no
step has, the one whose position the reference spells. -/
inductive Means (d : Definition) (reference : String) : Nat → Step → Prop
  | name {q : Nat} {step : Step} (hstep : d.steps[q]? = some step) (hname : step.id = reference) :
      Means d reference q step
  | number {q : Nat} {step : Step} (hnone : ∀ other ∈ d.steps, other.id ≠ reference)
      (hindex : Path.index? reference = some (q + 1)) (hstep : d.steps[q]? = some step) :
      Means d reference q step

variable {d : Definition}

/-- The step that a reference means is at its position. -/
theorem Means.found {reference : String} {q : Nat} {step : Step} (h : d.Means reference q step) :
    d.steps[q]? = some step := by
  cases h with
  | name hstep hname => exact hstep
  | number hnone hindex hstep => exact hstep

/-- A reference means at most one step, as the names of the steps differ. -/
theorem Means.unique {registry : Registry} (hd : Checked registry [] d.steps) {reference : String}
    {q q' : Nat} {step step' : Step} (h : d.Means reference q step)
    (h' : d.Means reference q' step') : q = q' := by
  cases h with
  | name hstep hname =>
    cases h' with
    | name hstep' hname' =>
      have hlt : q < (d.steps.map (·.id)).length := by
        rw [List.length_map]
        exact (List.getElem?_eq_some_iff.1 hstep).1
      refine (List.getElem?_inj hlt hd.nodup).1 ?_
      rw [List.getElem?_map, List.getElem?_map, hstep, hstep', Option.map_some, Option.map_some,
        hname, hname']
    | number hnone => exact absurd hname (hnone _ (List.mem_of_getElem? hstep))
  | number hnone hindex =>
    cases h' with
    | name hstep' hname' => exact absurd hname' (hnone _ (List.mem_of_getElem? hstep'))
    | number _ hindex' => exact Nat.succ_inj.1 (Option.some.inj (hindex.symm.trans hindex'))

/-- The position that the check finds is that of the step that the reference means. -/
theorem means_of_referred? {reference : String} {position : Nat}
    (h : d.referred? reference = some position) :
    ∃ q step, position = q + 1 ∧ d.Means reference q step := by
  unfold referred? at h
  cases hname : d.position? reference with
  | some p =>
    rw [hname] at h
    cases h
    obtain ⟨q, hfind, rfl⟩ := Option.map_eq_some_iff.1 hname
    obtain ⟨hq, hid, -⟩ := List.findIdx?_eq_some_iff_getElem.1 hfind
    exact ⟨q, d.steps[q], rfl, .name (List.getElem?_eq_getElem hq) (eq_of_beq hid)⟩
  | none =>
    rw [hname] at h
    obtain ⟨hindex, hbound⟩ := Option.filter_eq_some_iff.1 h
    obtain ⟨hpos, hle⟩ := of_decide_eq_true hbound
    obtain ⟨q, rfl⟩ := Nat.exists_eq_add_of_le' hpos
    have hnone := List.findIdx?_eq_none_iff.1 (Option.map_eq_none_iff.1 hname)
    refine ⟨q, d.steps[q], rfl, .number (fun other hother => ?_) hindex
      (List.getElem?_eq_getElem hle)⟩
    exact ne_of_beq_false (hnone other hother)

/-- Nothing is wrong with a reference of a step if none of the warnings is about it. -/
theorem problem?_eq_none {registry : Registry} {warnings : List Warning}
    (hd : d.check registry = .ok warnings) {i : Nat} {step : Step} {r : Template.Reference}
    {reference inner : String} (hi : d.steps[i]? = some step) (hr : r ∈ stepReferences step)
    (href : Path.stepReference? r.expression = some (reference, inner))
    (hwarn : ∀ w ∈ warnings, ¬d.Warns w i step r.expression reference) :
    d.problem? (i + 1) r.expression = none := by
  cases hproblem : d.problem? (i + 1) r.expression with
  | none => rfl
  | some message =>
    have hwarns : d.Warns ⟨step.id, r.sourcePath, message⟩ i step r.expression reference :=
      ⟨hi, rfl, hr, ⟨inner, href⟩, hproblem⟩
    refine absurd hwarns (hwarn _ ?_)
    rw [← (check_eq_ok_iff.1 hd).2, mem_warnings_iff]
    exact ⟨i, step, r.expression, reference, hwarns⟩

end Definition

namespace Runner

variable (r : Runner) {d : Definition} {payload : Json} {tenant : Tenant} {s : Services}

/-- In every admitted run, a step finds for each reference in its inputs or in the input of its
loop, in whatever iteration, the outputs that are recorded for the step that the check refers it to,
which is the one that the reference means, unless there is a warning about the reference. -/
theorem execute_means {warnings : List Warning} (h : r.Admits d payload tenant s)
    (hd : d.check r.registry = .ok warnings) :
    ∃ (run : RunResult) (σ : Nat → Services),
      r.execute d payload tenant s = (.ok run, r.finish run (σ run.steps.length)) ∧
      StepRun r run 1 (r.startContext run) d.steps run.steps σ ∧
      ∀ (i : Nat) (step : Step) (e : Template.Reference) (reference inner : String)
        (frame : Option LoopFrame),
        d.steps[i]? = some step → i < run.steps.length → e ∈ Definition.stepReferences step →
        Path.stepReference? e.expression = some (reference, inner) →
        (∀ w ∈ warnings, ¬d.Warns w i step e.expression reference) →
        ∃ (q : Nat) (target : Step) (result : StepResult),
          d.referred? reference = some (q + 1) ∧ d.Means reference q target ∧ q < i ∧
          run.steps[q]? = some result ∧
          (((r.startContext run).after (run.steps.take i)).withFrame frame).outputs[q]? =
            some (target.id, result.outputs) ∧
          (((r.startContext run).after (run.steps.take i)).withFrame frame).step? reference =
            some result.outputs := by
  obtain ⟨trigger, hp⟩ := Option.isSome_iff_exists.1 h.payload
  obtain ⟨results, σ, -, hrun, heq⟩ := r.start_run d trigger tenant s (Definition.check_checked hd)
  let run := ended (freshRun d trigger tenant s) results (σ results.length).now
  have hrun' : StepRun r run 1 (r.startContext run) d.steps run.steps σ := hrun.of_same rfl rfl
  refine ⟨run, σ, ?_, hrun', ?_⟩
  · rw [r.execute_admitted h hp]
    exact heq
  · intro i step e reference inner frame hi hlt he href hwarn
    have hproblem := Definition.problem?_eq_none hd hi he href hwarn
    obtain ⟨position, hq, hlast⟩ := Definition.referred?_of_problem? hproblem href
    obtain ⟨q, target, rfl, hmeans⟩ := Definition.means_of_referred? hq
    obtain ⟨result, hresult, hstep⟩ :=
      hrun'.step?_of_referred rfl hq (Nat.le_of_lt_succ hlast) (Nat.le_of_lt hlt)
    rw [Nat.add_sub_cancel] at hresult
    have hid : result.id = target.id := by
      obtain ⟨found, hfound, hid⟩ := hrun'.id_eq hresult
      rw [hid, Option.some.inj (hfound.symm.trans hmeans.found)]
    have hqi : q < i := Nat.lt_of_succ_lt_succ hlast
    have hrecorded : ((r.startContext run).after (run.steps.take i)).outputs[q]? =
        some (target.id, result.outputs) := by
      rw [outputs_after_getElem? rfl, if_pos hqi, hresult, Option.map_some, hid]
    exact ⟨q, target, result, hq, hmeans, hqi, hresult, hrecorded, hstep⟩

/-- A run of three steps, the first of which has the number of the second one for its name. The
third one refers to the first one by its name `2`, and to the second one by its number, which it
spells `02`. -/
theorem execute_means_numbers :
    let tenant : Tenant := ⟨"t"⟩
    let first : Step := { id := "2", kind := .collect }
    let second : Step := { id := "b", kind := .collect }
    let step : Step :=
      { id := "c", kind := .collect,
        inputs := ⟨[("collection", .array [.string "${{ steps.2.value }}",
          .string "${{ steps.02.value }}"])], by decide⟩ }
    let d : Definition :=
      { id := "au", tenant, trigger := { event := .cron }, steps := [first, second, step] }
    let r : Runner := {}
    let s : Services := { clock := default }
    r.Admits d .null tenant s ∧ d.check r.registry = .ok [] ∧
      d.Means "2" 0 first ∧ d.Means "02" 1 second ∧
      ∃ run, (r.execute d .null tenant s).1 = .ok run ∧
        (∃ result, run.steps[0]? = some result ∧
          ((r.startContext run).after (run.steps.take 2)).step? "2" = some result.outputs) ∧
        ∃ result, run.steps[1]? = some result ∧
          ((r.startContext run).after (run.steps.take 2)).step? "02" = some result.outputs := by
  intro tenant first second step d r s
  have hcheck : d.check r.registry = .ok [] := by
    dsimp only [d, first, second, step, tenant, r]
    rfl
  have hadmits : r.Admits d .null tenant s := ⟨rfl, rfl, rfl, [], hcheck⟩
  have hlength : (r.execute d .null tenant s).1.toOption.map (·.steps.length) = some 3 := by
    decide +kernel
  have hfirst : d.Means "2" 0 first := .name rfl rfl
  have hsecond : d.Means "02" 1 second := .number (by decide) (by decide) rfl
  obtain ⟨run, σ, hrun, -, hmeans⟩ := r.execute_means hadmits hcheck
  rw [hrun] at hlength
  have hthree : run.steps.length = 3 := Option.some.inj hlength
  have hlt : 2 < run.steps.length := by omega
  have hsame {reference : String} {q q' : Nat} {target target' : Step}
      (h : d.Means reference q target) (h' : d.Means reference q' target') : q = q' :=
    h.unique (Definition.check_checked hcheck) h'
  obtain ⟨q, target, result, -, hm, -, hresult, -, hstep⟩ :=
    hmeans 2 step ⟨"inputs.collection[0]", "steps.2.value"⟩ "2" "value" none rfl hlt
      (by decide +kernel) (by decide) (by simp)
  obtain ⟨q', target', result', -, hm', -, hresult', -, hstep'⟩ :=
    hmeans 2 step ⟨"inputs.collection[1]", "steps.02.value"⟩ "02" "value" none rfl hlt
      (by decide +kernel) (by decide) (by simp)
  rw [hsame hm hfirst] at hresult
  rw [hsame hm' hsecond] at hresult'
  exact ⟨hadmits, hcheck, hfirst, hsecond, run, by rw [hrun], ⟨result, hresult, hstep⟩, result',
    hresult', hstep'⟩

end Runner

end Automation
