import Automation.Proofs.Execution.Inputs
import Automation.Proofs.Template.Failures

/-!
# Inputs that are required

A required input is affected (`Execution.Affected`) if an expression anywhere in it fails, or if it
is absent or its value is null. A step is executed only if none of its required inputs is. Otherwise
it fails for the first of them in the order of its kind's schema, whatever the order in which they
are written and in which their expressions fail, and all that has happened by then is that time has
passed (`Execution.once_required`).
-/

namespace Automation

/-! ## What resolving makes of an input -/

namespace Resolver

variable (r : Resolver) (ctx : Context) {inputs : List (String × Json)}

/-- The values of inputs are put in one after the other. -/
theorem values_resolveInputsInto (done : ResolvedInputs) :
    (r.resolveInputsInto ctx done inputs).values =
      (inputs.map fun (name, v) => (name, r.resolveValue ctx v)).foldl
        (fun fields (name, v) => Fields.insert name v fields) done.values := by
  induction inputs generalizing done with
  | nil => rfl
  | cons input rest ih =>
    obtain ⟨field, v⟩ := input
    rw [resolveInputsInto, ih, List.map_cons, List.foldl_cons]
    dsimp only
    rw [r.value_resolveAt ctx field field v]

/-- The value of an input is what resolving makes of it alone. -/
theorem lookup_resolveInputs (h : (inputs.map (·.1)).Nodup) (name : String) :
    (r.resolveInputs ctx inputs).values.lookup name =
      (inputs.lookup name).map (r.resolveValue ctx) := by
  have hnames : ((inputs.map fun (name, v) => (name, r.resolveValue ctx v)).map (·.1)).Nodup := by
    rwa [List.map_map]
  rw [resolveInputs, values_resolveInputsInto, Fields.lookup_foldl_insert hnames, Fields.lookup_map]
  exact Option.or_none

/-- Of the failures in a value only those under its own field are found, the first one first. -/
theorem find?_failures (field name : String) (v : Json) :
    ((r.resolveAt ctx field field v).2.find? (·.field == name)).map (·.fault) =
      if field = name then (r.faultsIn ctx v).head? else none := by
  split
  · next hname =>
    rw [← r.faults_resolveAt ctx field field v]
    cases hfailures : (r.resolveAt ctx field field v).2 with
    | nil => rfl
    | cons failure rest =>
      have hmem : failure ∈ (r.resolveAt ctx field field v).2 := by
        rw [hfailures]
        exact List.mem_cons_self ..
      have hfield : failure.field = name := hname ▸ r.field_of_mem_failures ctx hmem
      rw [List.find?_cons_of_pos (by simpa using hfield)]
      rfl
  · next hname =>
    rw [Option.map_eq_none_iff, List.find?_eq_none]
    intro failure hfailure
    rw [r.field_of_mem_failures ctx hfailure]
    simpa using hname

/-- The first failure of an input is the first fault of an expression in it. -/
theorem failureFor?_resolveInputs (h : (inputs.map (·.1)).Nodup) (name : String) :
    ((r.resolveInputs ctx inputs).failureFor? name).map (·.fault) =
      (inputs.lookup name).bind fun v => (r.faultsIn ctx v).head? := by
  rw [ResolvedInputs.failureFor?, failures_resolveInputs]
  induction inputs with
  | nil => rfl
  | cons input rest ih =>
    obtain ⟨field, v⟩ := input
    obtain ⟨hfirst, hrest⟩ := List.nodup_cons.1 h
    have hfind := r.find?_failures ctx field name v
    rw [List.flatMap_cons, List.find?_append, Option.map_or, hfind, ih hrest, List.lookup_cons]
    by_cases hname : field = name
    · subst hname
      rw [Fields.lookup_eq_none_iff.2 hfirst, if_pos rfl, beq_self_eq_true]
      exact Option.or_none
    · rw [if_neg hname, beq_eq_false_iff_ne.2 (Ne.symm hname)]
      rfl

end Resolver

/-! ## Affected inputs -/

/-- Null is the only null. -/
theorem Json.isNull_iff {v : Json} : v.isNull = true ↔ v = .null := by
  cases v <;> simp [isNull]

/-- The fault is one of a required input. -/
def StepFault.IsRequired : StepFault → Prop
  | .missingInput _ | .unresolvedInput .. => True
  | _ => False

/-- A fault of a required input is one of the inputs. -/
theorem StepFault.IsRequired.isInput {fault : StepFault} (h : fault.IsRequired) :
    fault.IsInput := by
  cases fault with
  | missingInput | unresolvedInput => trivial
  | invalidInputs | invalidLoopInput | timedOut | store | script | webhook | notARow => cases h

/-- Inputs that give no task are invalid inputs. -/
theorem Task.exists_of_ofInputs_error {kind : StepKind} {values : List (String × Json)}
    {fault : StepFault} (h : ofInputs kind values = .error fault) :
    ∃ cause, fault = .invalidInputs kind cause := by
  unfold ofInputs at h
  cases hread : ofTree kind (.ofJson (.object values)) with
  | error cause =>
    rw [hread] at h
    cases h
    exact ⟨cause, rfl⟩
  | ok task =>
    rw [hread] at h
    cases h

namespace Execution

/-- An input cannot be used, and why: an expression in it fails, and this is the first that does; or
it is absent; or no expression in it fails and its value is null. -/
inductive Affected (r : Resolver) (ctx : Context) (inputs : List (String × Json)) (name : String) :
    StepFault → Prop
  | unresolved {v : Json} {fault : BindingFault} (there : inputs.lookup name = some v)
      (first : (r.faultsIn ctx v).head? = some fault) :
      Affected r ctx inputs name (.unresolvedInput name fault)
  | absent (h : inputs.lookup name = none) : Affected r ctx inputs name (.missingInput name)
  | null {v : Json} (there : inputs.lookup name = some v) (sound : r.faultsIn ctx v = [])
      (h : r.resolveValue ctx v = .null) : Affected r ctx inputs name (.missingInput name)

section
variable {r : Resolver} {ctx : Context} {inputs : Entries Json} {name : String}
  {fault : StepFault}

/-- An input that is absent is affected, and in one way only. -/
theorem affected_of_absent (h : inputs.list.lookup name = none) :
    Affected r ctx inputs name fault ↔ fault = .missingInput name := by
  constructor
  · rintro (⟨hthere, -⟩ | - | ⟨hthere, -, -⟩)
    · cases h.symm.trans hthere
    · rfl
    · cases h.symm.trans hthere
  · rintro rfl
    exact .absent h

/-- An input in which an expression fails is affected by the first that does. -/
theorem affected_of_fault {v : Json} {first : BindingFault} {rest : List BindingFault}
    (hthere : inputs.list.lookup name = some v) (hfaults : r.faultsIn ctx v = first :: rest) :
    Affected r ctx inputs name fault ↔ fault = .unresolvedInput name first := by
  constructor
  · rintro (⟨hthere', hhead⟩ | habsent | ⟨hthere', hsound, -⟩)
    · cases hthere.symm.trans hthere'
      rw [hfaults] at hhead
      cases hhead
      rfl
    · cases hthere.symm.trans habsent
    · cases hthere.symm.trans hthere'
      cases hfaults.symm.trans hsound
  · rintro rfl
    exact .unresolved hthere (by rw [hfaults, List.head?_cons])

/-- An input without such an expression is affected if its value is null. -/
theorem affected_of_sound {v : Json} (hthere : inputs.list.lookup name = some v)
    (hsound : r.faultsIn ctx v = []) :
    Affected r ctx inputs name fault ↔
      r.resolveValue ctx v = .null ∧ fault = .missingInput name := by
  constructor
  · rintro (⟨hthere', hhead⟩ | habsent | ⟨hthere', -, hnull⟩)
    · cases hthere.symm.trans hthere'
      rw [hsound] at hhead
      cases hhead
    · cases hthere.symm.trans habsent
    · cases hthere.symm.trans hthere'
      exact ⟨hnull, rfl⟩
  · rintro ⟨hnull, rfl⟩
    exact .null hthere hsound hnull

/-- An input is found fault with if it is affected. -/
theorem inputFault?_eq_some_iff :
    inputFault? (r.resolveInputs ctx inputs) name = some fault ↔
      Affected r ctx inputs name fault := by
  have hfailure := r.failureFor?_resolveInputs ctx inputs.nodup name
  have hvalue := r.lookup_resolveInputs ctx inputs.nodup name
  unfold inputFault?
  cases hinput : inputs.list.lookup name with
  | none =>
    rw [hinput, Option.bind_none, Option.map_eq_none_iff] at hfailure
    rw [hinput, Option.map_none] at hvalue
    rw [affected_of_absent hinput, hfailure, hvalue]
    exact Option.some_inj.trans eq_comm
  | some v =>
    rw [hinput, Option.bind_some] at hfailure
    rw [hinput, Option.map_some] at hvalue
    cases hfaults : r.faultsIn ctx v with
    | cons first rest =>
      rw [hfaults, List.head?_cons, Option.map_eq_some_iff] at hfailure
      obtain ⟨failure, hfound, hfirst⟩ := hfailure
      rw [affected_of_fault hinput hfaults, hfound, ← hfirst]
      exact Option.some_inj.trans eq_comm
    | nil =>
      rw [hfaults, List.head?_nil, Option.map_eq_none_iff] at hfailure
      rw [affected_of_sound hinput hfaults, hfailure, hvalue, Option.all_some, ← Json.isNull_iff]
      dsimp only
      cases (r.resolveValue ctx v).isNull with
      | true => simp [eq_comm]
      | false => simp

/-- An input is not found fault with if it is not affected. -/
theorem inputFault?_eq_none_iff :
    inputFault? (r.resolveInputs ctx inputs) name = none ↔
      ∀ fault, ¬Affected r ctx inputs name fault := by
  simp only [Option.eq_none_iff_forall_ne_some, ne_eq, inputFault?_eq_some_iff]

/-- Of some required inputs the first one that is affected is found fault with. -/
theorem requiredFault?_eq_some_iff (kind : StepKind) :
    requiredFault? kind (r.resolveInputs ctx inputs) = some fault ↔
      ∃ before name after, kind.requiredInputs = before ++ name :: after ∧
        (∀ other ∈ before, ∀ fault, ¬Affected r ctx inputs other fault) ∧
        Affected r ctx inputs name fault := by
  simp only [requiredFault?, List.findSome?_eq_some_iff, inputFault?_eq_none_iff,
    inputFault?_eq_some_iff]
  exact exists_congr fun _ => exists_congr fun _ => exists_congr fun _ =>
    and_congr_right fun _ => and_comm

/-- If no required input is affected, none is found fault with. -/
theorem requiredFault?_eq_none_iff (kind : StepKind) :
    requiredFault? kind (r.resolveInputs ctx inputs) = none ↔
      ∀ name ∈ kind.requiredInputs, ∀ fault, ¬Affected r ctx inputs name fault := by
  simp only [requiredFault?, List.findSome?_eq_none_iff, inputFault?_eq_none_iff]

end

section
variable {c : Config} {tenant : Tenant} {step : Step} {context : Context} {s : Services}
  {fault : StepFault}

/-- A step with a fault of its required inputs fails with it, unless it is late by then, and does
nothing. -/
theorem once_of_requiredFault?
    (h : requiredFault? step.kind (inputsOf c step context) = some fault) :
    once c tenant step context s =
      (.error (((settingOf c tenant context s).overdue? (resolvedAt c step context s)).getD fault),
        resolvedAt c step context s) := by
  rw [once_eq, prepared, taskOf, h]
  cases (settingOf c tenant context s).overdue? (resolvedAt c step context s) with
  | some late => rfl
  | none => rfl

/-- A step without such a fault does not fail with one. -/
theorem not_isRequired_of_once (h : requiredFault? step.kind (inputsOf c step context) = none)
    (hfault : (once c tenant step context s).1 = .error fault) : ¬fault.IsRequired := by
  rw [once_eq, prepared, taskOf, h] at hfault
  cases hlate : (settingOf c tenant context s).overdue? (resolvedAt c step context s) with
  | some late =>
    rw [hlate] at hfault
    cases hfault
    obtain ⟨millis, rfl⟩ := Task.exists_of_overdue? hlate
    exact id
  | none =>
    rw [hlate] at hfault
    dsimp only at hfault
    cases htask : Task.ofInputs step.kind (inputsOf c step context).values with
    | error fault' =>
      rw [htask] at hfault
      cases hfault
      obtain ⟨cause, rfl⟩ := Task.exists_of_ofInputs_error htask
      exact id
    | ok task =>
      rw [htask] at hfault
      dsimp only at hfault
      cases hdone : (task.perform (settingOf c tenant context s)
          (resolvedAt c step context s)).1 with
      | ok outputs =>
        rw [hdone] at hfault
        cases hfault
      | error fault' =>
        rw [hdone] at hfault
        cases hfault
        exact fun hrequired => Task.perform_isInput hdone hrequired.isInput

end

/-- If a required input of a step is affected, every execution of the step fails for the first one
that is, in the order of the schema, unless the step is late by then. Which one that is does not
depend on the services, and of these nothing has changed but the time that the inputs have taken: no
document has been written, no webhook sent, and no script step run. If no required input is
affected, no execution fails for one. -/
theorem once_required (c : Config) (step : Step) (context : Context) :
    ((∃ name ∈ step.kind.requiredInputs, ∃ fault,
        Affected c.stepResolver context step.inputs name fault) →
      ∃ before name after fault, step.kind.requiredInputs = before ++ name :: after ∧
        (∀ other ∈ before, ∀ fault, ¬Affected c.stepResolver context step.inputs other fault) ∧
        Affected c.stepResolver context step.inputs name fault ∧
        ∀ tenant s, once c tenant step context s =
          (.error (((settingOf c tenant context s).overdue? (resolvedAt c step context s)).getD
              fault),
            s.elapse (c.stepResolver.timeOfFields context step.inputs))) ∧
    ((∀ name ∈ step.kind.requiredInputs, ∀ fault,
        ¬Affected c.stepResolver context step.inputs name fault) →
      ∀ tenant s fault, (once c tenant step context s).1 = .error fault →
        (∀ name, fault ≠ .missingInput name) ∧
          ∀ name cause, fault ≠ .unresolvedInput name cause) := by
  constructor
  · rintro ⟨name, hname, fault, haffected⟩
    cases hfound : requiredFault? step.kind (inputsOf c step context) with
    | none =>
      exact absurd haffected ((requiredFault?_eq_none_iff step.kind).1 hfound name hname fault)
    | some first =>
      obtain ⟨before, name, after, hsplit, hbefore, hfirst⟩ :=
        (requiredFault?_eq_some_iff step.kind).1 hfound
      exact ⟨before, name, after, first, hsplit, hbefore, hfirst,
        fun tenant s => once_of_requiredFault? hfound⟩
  · intro hnone tenant s fault hfault
    have hnot := not_isRequired_of_once ((requiredFault?_eq_none_iff step.kind).2 hnone) hfault
    exact ⟨fun name hname => hnot (hname ▸ trivial),
      fun name cause hname => hnot (hname ▸ trivial)⟩

/-- An expression fails in the row of an update and another one inside of its row id. The update
fails for the row id, although the row is written first. -/
theorem once_required_nested :
    let c : Config := { stepMillis := none }
    let step : Step :=
      { id := "a", kind := .updateRow,
        inputs := ⟨[("row", .string "$\x7b\x7b script y \x7d\x7d"),
          ("row_id", .array [.int 1, .string "a $\x7b\x7b script x \x7d\x7d"])], by decide⟩ }
    let context : Context := { tenant := ⟨"t"⟩, trigger := .object [] }
    (inputsOf c step context).failures.map (·.sourcePath) = ["row", "row_id[1]"] ∧
      ∀ tenant s, once c tenant step context s =
        (.error (.unresolvedInput "row_id" (.syntaxFault .unquotedScript)),
          s.elapse (c.stepResolver.timeOfFields context step.inputs)) := by
  intro c step context
  have haffected : Affected c.stepResolver context step.inputs "row_id"
      (.unresolvedInput "row_id" (.syntaxFault .unquotedScript)) :=
    .unresolved rfl (by decide +kernel)
  refine ⟨by decide +kernel, fun tenant s => ?_⟩
  obtain ⟨before, name, after, fault, hsplit, hbefore, hfirst, honce⟩ :=
    (once_required c step context).1 ⟨"row_id", by decide, _, haffected⟩
  have hschema : step.kind.requiredInputs = ["row_id", "row"] := rfl
  rw [hschema] at hsplit
  cases before with
  | cons other before =>
    obtain ⟨rfl, -⟩ := List.cons.inj hsplit
    exact absurd haffected (hbefore _ (List.mem_cons_self ..) _)
  | nil =>
    obtain ⟨rfl, -⟩ := List.cons.inj hsplit
    obtain rfl : _ = fault := Option.some.inj
      ((inputFault?_eq_some_iff.2 haffected).symm.trans (inputFault?_eq_some_iff.2 hfirst))
    exact honce tenant s

end Execution

end Automation
