import Automation.Proofs.Execution.Inputs
import Automation.Proofs.Step.Shape

/-!
# Failures in inputs that are not required

If an expression fails in an input that a kind does not require, null or what is left of the text
stands for its value, and the step goes on. Whether the step can use that is another matter: it can
exactly if the value is of the shape that the kind has for the input (`Execution.once_optional`),
and then null is the same as nothing. Conditions, methods, filters and headers are not null
(`StepKind.shapes`), so that a step can fail for an input that it does not require
(`Execution.once_optional_filters`).
-/

namespace Automation

/-- The step without its inputs of some names. -/
def Step.without (step : Step) (out : String → Bool) : Step :=
  { step with inputs := step.inputs.filter fun input => !out input.1 }

/-- An expression in the input of a name has failed. -/
def Resolver.ResolvedInputs.failed (inputs : Resolver.ResolvedInputs) (name : String) : Bool :=
  (inputs.failureFor? name).isSome

namespace Resolver.ResolvedInputs

variable {inputs : ResolvedInputs} {name : String}

/-- An input has failed if there is a failure in its field. -/
theorem failed_iff :
    inputs.failed name = true ↔ ∃ failure ∈ inputs.failures, failure.field = name := by
  rw [failed, failureFor?, List.find?_isSome]
  simp

/-- An input that has not failed has no first failure. -/
theorem failureFor?_eq_none (h : inputs.failed name = false) : inputs.failureFor? name = none := by
  rwa [failed, Option.isSome_eq_false_iff, Option.isNone_iff_eq_none] at h

end Resolver.ResolvedInputs

namespace Execution

section
variable {kind : StepKind} {inputs : Resolver.ResolvedInputs}

/-- A required input without failures is found fault with if it is absent or null. -/
theorem inputFault?_of_resolved {name : String} (h : inputs.failed name = false) :
    inputFault? inputs name =
      if (inputs.values.lookup name).all Json.isNull then some (.missingInput name) else none := by
  rw [inputFault?, inputs.failureFor?_eq_none h]

/-- Of required inputs that are there and have not failed, one is missing only if it is null. -/
theorem exists_requiredFault?_iff (h : ∀ name ∈ kind.requiredInputs, inputs.failed name = false)
    (hthere : ∀ name ∈ kind.requiredInputs, (inputs.values.lookup name).isSome) :
    (requiredFault? kind inputs).isSome ↔
      ∃ name ∈ kind.requiredInputs, inputs.values.lookup name = some .null := by
  rw [requiredFault?, List.isSome_findSome?, List.any_eq_true]
  refine exists_congr fun name => and_congr_right fun hname => ?_
  obtain ⟨v, hv⟩ := Option.isSome_iff_exists.1 (hthere name hname)
  rw [inputFault?_of_resolved (h name hname), hv]
  cases v with
  | null => exact iff_of_true rfl rfl
  | bool | number | string | array | object => exact iff_of_false nofun nofun

/-- Whether a required input is missing depends on the required inputs only. -/
theorem requiredFault?_congr {others : Resolver.ResolvedInputs}
    (h : ∀ name ∈ kind.requiredInputs, inputFault? inputs name = inputFault? others name) :
    requiredFault? kind inputs = requiredFault? kind others := by
  unfold requiredFault?
  generalize kind.requiredInputs = names at h ⊢
  induction names with
  | nil => rfl
  | cons name rest ih =>
    obtain ⟨hfirst, hrest⟩ := List.forall_mem_cons.1 h
    rw [List.findSome?_cons, List.findSome?_cons, hfirst, ih hrest]

variable {kept : List (String × Json)} {task : Task}

/-- Inputs whose failures are not in what is required, and which would give a task without the
inputs that have failures, are refused if something required is null or if an input with a failure
is not of its shape. -/
theorem exists_taskOf_error_iff (hordered : Fields.Ordered inputs.values)
    (hrequired : ∀ name ∈ kind.requiredInputs, inputs.failed name = false)
    (h : LeavesOut inputs.failed inputs.values kept)
    (hkept : Task.Reads (Tree.ofFields kept) kind task) :
    (∃ fault, taskOf kind inputs = .error fault) ↔
      (∃ name ∈ kind.requiredInputs, inputs.values.lookup name = some .null) ∨
        ¬Task.Fitting kind inputs.failed inputs.values := by
  have hthere : ∀ name ∈ kind.requiredInputs, (inputs.values.lookup name).isSome := by
    intro name hname
    have hsome := hkept.isSome_required name hname
    rwa [h name, hrequired name hname] at hsome
  rw [← exists_requiredFault?_iff hrequired hthere, ← Task.exists_reads_iff h hrequired hkept,
    taskOf]
  cases requiredFault? kind inputs with
  | some fault => exact iff_of_true ⟨fault, rfl⟩ (.inl rfl)
  | none =>
    dsimp only
    simp only [← Task.ofInputs_eq_ok_iff hordered]
    cases Task.ofInputs kind inputs.values with
    | error fault => simp
    | ok task' => simp

/-- Inputs with failures that are null, and of a shape that takes null, give the same task as no
inputs in their places. -/
theorem taskOf_of_null {others : Resolver.ResolvedInputs} (hordered : Fields.Ordered inputs.values)
    (hordered' : Fields.Ordered others.values)
    (hrequired : ∀ name ∈ kind.requiredInputs, inputs.failed name = false)
    (hothers : ∀ name ∈ kind.requiredInputs, others.failed name = false)
    (h : LeavesOut inputs.failed inputs.values others.values)
    (hkept : Task.Reads (Tree.ofFields others.values) kind task)
    (hout : ∀ name, inputs.failed name = true →
      inputs.values.lookup name = some .null ∧ (kind.optionalShape name).takes .null = true) :
    taskOf kind inputs = taskOf kind others := by
  have hfault : requiredFault? kind inputs = requiredFault? kind others := by
    refine requiredFault?_congr fun name hname => ?_
    rw [inputFault?_of_resolved (hrequired name hname),
      inputFault?_of_resolved (hothers name hname), h name, hrequired name hname]
    rfl
  have hreads : Task.ofInputs kind inputs.values = Task.ofInputs kind others.values := by
    rw [(Task.ofInputs_eq_ok_iff hordered).2 (.of_null h hrequired hout hkept),
      (Task.ofInputs_eq_ok_iff hordered').2 hkept]
  rw [taskOf, taskOf, hfault, hreads]

end

variable (c : Config) (tenant : Tenant) (step : Step) (context : Context) (s : Services)

/-- The inputs of a step without those with failures. -/
def sound : Resolver.ResolvedInputs :=
  inputsOf c (step.without (inputsOf c step context).failed) context

/-- The sound inputs leave out exactly those that have failed. -/
theorem leavesOut_sound :
    LeavesOut (inputsOf c step context).failed (inputsOf c step context).values
      (sound c step context).values := by
  intro name
  rw [sound, inputsOf, Step.without]
  dsimp only [Entries.filter]
  rw [Resolver.lookup_resolveInputs_filter fun name => !(inputsOf c step context).failed name]
  cases (inputsOf c step context).failed name with
  | true => rfl
  | false => rfl

/-- An input that has not failed does not fail among the sound ones. -/
theorem failed_sound {name : String} (h : (inputsOf c step context).failed name = false) :
    (sound c step context).failed name = false := by
  rw [← Bool.not_eq_true, Resolver.ResolvedInputs.failed_iff] at h ⊢
  rintro ⟨failure, hfailure, hname⟩
  exact h ⟨failure, Resolver.failures_resolveInputs_filter hfailure, hname⟩

/-- Suppose that expressions fail only in inputs that a step does not require, and that the inputs
without these can be decoded. Then the step is executed without any fault of its inputs unless
something that it requires is null, or what stands for an input with a failure is not of the shape
of the input. If that is null and the shape takes null, the input might as well be absent. -/
theorem once_optional {task : Task}
    (hfailures : ∀ failure ∈ (inputsOf c step context).failures,
      failure.field ∉ step.kind.requiredInputs)
    (hsound : Task.ofInputs step.kind (sound c step context).values = .ok task) :
    ((∃ fault, (once c tenant step context s).1 = .error fault ∧ fault.IsInput) ↔
      (settingOf c tenant context s).overdue? (resolvedAt c step context s) = none ∧
        ((∃ name ∈ step.kind.requiredInputs,
            (inputsOf c step context).values.lookup name = some .null) ∨
          ∃ failure ∈ (inputsOf c step context).failures, ∃ v,
            (inputsOf c step context).values.lookup failure.field = some v ∧
              (step.kind.optionalShape failure.field).takes v = false)) ∧
    ((∀ failure ∈ (inputsOf c step context).failures,
        (inputsOf c step context).values.lookup failure.field = some .null ∧
          (step.kind.optionalShape failure.field).takes .null = true) →
      ∀ x s, performWith x step.kind (inputsOf c step context) s =
        performWith x step.kind (sound c step context) s) := by
  have hrequired : ∀ name ∈ step.kind.requiredInputs,
      (inputsOf c step context).failed name = false := by
    intro name hname
    rw [← Bool.not_eq_true, Resolver.ResolvedInputs.failed_iff]
    rintro ⟨failure, hfailure, rfl⟩
    exact hfailures failure hfailure hname
  have hordered : Fields.Ordered (inputsOf c step context).values :=
    Resolver.ordered_resolveInputs
  have hordered' : Fields.Ordered (sound c step context).values :=
    Resolver.ordered_resolveInputs
  have hreads := (Task.ofInputs_eq_ok_iff hordered').1 hsound
  have hfitting : ¬Task.Fitting step.kind (inputsOf c step context).failed
        (inputsOf c step context).values ↔
      ∃ failure ∈ (inputsOf c step context).failures, ∃ v,
        (inputsOf c step context).values.lookup failure.field = some v ∧
          (step.kind.optionalShape failure.field).takes v = false := by
    simp only [Task.Fitting, Resolver.ResolvedInputs.failed_iff]
    simp
  constructor
  · rw [once_isInput_iff, exists_taskOf_error_iff hordered hrequired
      (leavesOut_sound c step context) hreads, hfitting]
  · intro hnull x s
    rw [performWith_eq, performWith_eq, taskOf_of_null hordered hordered' hrequired
      (fun name hname => failed_sound c step context (hrequired name hname))
      (leavesOut_sound c step context) hreads]
    intro name hname
    obtain ⟨failure, hfailure, rfl⟩ := Resolver.ResolvedInputs.failed_iff.1 hname
    exact hnull failure hfailure

/-- A query whose limit fails is a query without a limit. -/
theorem once_optional_limit :
    let c : Config := {}
    let step : Step :=
      { id := "a", kind := .queryRows,
        inputs := ⟨[("limit", .string "$\x7b\x7b script x \x7d\x7d"),
          ("table_id", .string "t")], by decide⟩ }
    let context : Context := { tenant := ⟨"t"⟩, trigger := .object [] }
    let s : Services := { clock := default }
    (∀ failure ∈ (inputsOf c step context).failures, failure.field ∉ step.kind.requiredInputs) ∧
      Task.ofInputs step.kind (sound c step context).values = .ok (.queryRows "t" [] none) ∧
      (inputsOf c step context).failures = [⟨"limit", "limit", .syntaxFault .unquotedScript⟩] ∧
      (¬∃ fault, (once c ⟨"t"⟩ step context s).1 = .error fault ∧ fault.IsInput) ∧
      ∀ x, performWith x step.kind (inputsOf c step context) s =
        performWith x step.kind (sound c step context) s := by
  intro c step context s
  have hfailures : (inputsOf c step context).failures =
      [⟨"limit", "limit", .syntaxFault .unquotedScript⟩] := by
    decide +kernel
  have hvalues : (inputsOf c step context).values =
      [("limit", .null), ("table_id", .string "t")] := by
    dsimp only [c, step, context]
    rfl
  have hsound : Task.ofInputs step.kind (sound c step context).values =
      .ok (.queryRows "t" [] none) := by
    dsimp only [c, step, context]
    rfl
  have hoptional : ∀ failure ∈ (inputsOf c step context).failures,
      failure.field ∉ step.kind.requiredInputs := by
    rw [hfailures]
    decide
  obtain ⟨hfaults, hnull⟩ := once_optional c ⟨"t"⟩ step context s hoptional hsound
  rw [hfailures, hvalues] at hfaults hnull
  refine ⟨hoptional, hsound, hfailures, fun h => ?_, fun x => hnull ?_ x s⟩
  · obtain ⟨-, ⟨name, hname, hnull⟩ | ⟨failure, hfailure, v, hv, hshape⟩⟩ := hfaults.1 h
    · cases List.mem_singleton.1 hname
      cases hnull
    · cases List.mem_singleton.1 hfailure
      cases hv
      cases hshape
  · exact List.forall_mem_singleton.2 ⟨rfl, rfl⟩

/-- A query whose filters fail, which are not required, is refused for its inputs. Without them it
would be a query of the whole table. -/
theorem once_optional_filters :
    let c : Config := {}
    let step : Step :=
      { id := "a", kind := .queryRows,
        inputs := ⟨[("filters", .string "$\x7b\x7b script x \x7d\x7d"),
          ("table_id", .string "t")], by decide⟩ }
    let context : Context := { tenant := ⟨"t"⟩, trigger := .object [] }
    let s : Services := { clock := default }
    (∀ failure ∈ (inputsOf c step context).failures, failure.field ∉ step.kind.requiredInputs) ∧
      Task.ofInputs step.kind (sound c step context).values = .ok (.queryRows "t" [] none) ∧
      (once c ⟨"t"⟩ step context s).1 =
        .error (.invalidInputs .queryRows (.invalidType "null" "a map")) := by
  intro c step context s
  refine ⟨by decide +kernel, ?_, ?_⟩
  · dsimp only [c, step, context]
    rfl
  · dsimp only [c, step, context, s]
    rfl

end Execution

end Automation
