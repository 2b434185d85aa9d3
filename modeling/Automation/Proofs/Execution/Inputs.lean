import Automation.Execution.Once
import Automation.Proofs.Fields.Order

/-!
# The inputs of a step

What an execution makes of the inputs of its step. The resolved values are sorted, and leaving
inputs out leaves the values of the others as they are (`Resolver.lookup_resolveInputs_filter`).
`Execution.taskOf` is the task that the resolved inputs give or the fault that they have, and an
execution that is in time does that task or fails with that fault (`Execution.once_eq`). Doing a
task never finds fault with the inputs (`Task.perform_isInput`).
-/

namespace Automation

/-! ## Resolving -/

namespace Resolver

variable {r : Resolver} {ctx : Context} {done : ResolvedInputs} {inputs : List (String × Json)}

/-- The failures of inputs come after those before them, in the order of the inputs. -/
theorem failures_resolveInputsInto :
    (r.resolveInputsInto ctx done inputs).failures =
      done.failures ++ inputs.flatMap fun input => (r.resolveAt ctx input.1 input.1 input.2).2 := by
  induction inputs generalizing done with
  | nil => exact (List.append_nil _).symm
  | cons input rest ih =>
    obtain ⟨field, value⟩ := input
    rw [resolveInputsInto, ih, List.flatMap_cons, List.append_assoc]

/-- The failures of inputs come in the order of the inputs. -/
theorem failures_resolveInputs :
    (r.resolveInputs ctx inputs).failures =
      inputs.flatMap fun input => (r.resolveAt ctx input.1 input.1 input.2).2 := by
  rw [resolveInputs, failures_resolveInputsInto, List.nil_append]

/-- Leaving inputs out gives no new failures. -/
theorem failures_resolveInputs_filter {keep : String × Json → Bool} {failure : ResolutionFailure}
    (h : failure ∈ (r.resolveInputs ctx (inputs.filter keep)).failures) :
    failure ∈ (r.resolveInputs ctx inputs).failures := by
  rw [failures_resolveInputs, List.mem_flatMap] at h ⊢
  obtain ⟨input, hinput, hfailure⟩ := h
  exact ⟨input, (List.mem_filter.1 hinput).1, hfailure⟩

/-- Inputs are put in order among those that are in order. -/
theorem ordered_resolveInputsInto (h : Fields.Ordered done.values) :
    Fields.Ordered (r.resolveInputsInto ctx done inputs).values := by
  induction inputs generalizing done with
  | nil => exact h
  | cons input rest ih => exact ih (Fields.ordered_insert _ _ h)

/-- The resolved values are sorted. -/
theorem ordered_resolveInputs : Fields.Ordered (r.resolveInputs ctx inputs).values :=
  ordered_resolveInputsInto .nil

/-- What is resolved without some inputs is what is resolved with them, without their values. -/
theorem lookup_resolveInputsInto_filter (keep : String → Bool) {kept : ResolvedInputs}
    (h : ∀ name, kept.values.lookup name = if keep name then done.values.lookup name else none)
    (name : String) :
    (r.resolveInputsInto ctx kept (inputs.filter fun input => keep input.1)).values.lookup name =
      if keep name then (r.resolveInputsInto ctx done inputs).values.lookup name else none := by
  induction inputs generalizing done kept with
  | nil => exact h name
  | cons input rest ih =>
    obtain ⟨field, value⟩ := input
    rw [List.filter_cons, resolveInputsInto]
    dsimp only
    split
    · next hkeep =>
      refine ih fun other => ?_
      by_cases hother : other = field
      · subst hother
        rw [Fields.lookup_insert_self, Fields.lookup_insert_self, if_pos hkeep]
      · rw [Fields.lookup_insert_ne hother, Fields.lookup_insert_ne hother, h other]
    · next hkeep =>
      refine ih fun other => ?_
      by_cases hother : other = field
      · subst hother
        rw [h other, if_neg hkeep, if_neg hkeep]
      · rw [Fields.lookup_insert_ne hother, h other]

/-- If inputs are left out, the values of the others stay. -/
theorem lookup_resolveInputs_filter (keep : String → Bool) (name : String) :
    (r.resolveInputs ctx (inputs.filter fun input => keep input.1)).values.lookup name =
      if keep name then (r.resolveInputs ctx inputs).values.lookup name else none :=
  lookup_resolveInputsInto_filter keep (fun _ => (ite_self _).symm) name

end Resolver

/-! ## Faults of inputs -/

/-- The fault is one of the inputs of a step, not of what it does. -/
def StepFault.IsInput : StepFault → Prop
  | .missingInput _ | .unresolvedInput .. | .invalidInputs .. | .invalidLoopInput _ => True
  | .timedOut _ | .store _ | .script _ | .webhook _ | .notARow _ => False

namespace Task

variable {x : Setting} {s : Services} {fault : StepFault}

/-- A step that is overdue has timed out. -/
theorem exists_of_overdue? (h : x.overdue? s = some fault) :
    ∃ millis, fault = .timedOut millis := by
  unfold Setting.overdue? at h
  split at h
  · split at h
    · exact ⟨_, (Option.some.inj h).symm⟩
    · cases h
  · cases h

/-- A request to the store that fails is no fault of the inputs. -/
theorem rowResult_isInput {r : Except StoreFault Document × Services}
    (h : (rowResult r).1 = .error fault) : ¬fault.IsInput := by
  unfold rowResult at h
  split at h
  · cases h
  · cases h
    exact id

/-- A delay that fails is no fault of the inputs. -/
theorem performDelay_isInput {millis : Nat} (h : (performDelay x millis s).1 = .error fault) :
    ¬fault.IsInput := by
  unfold performDelay at h
  dsimp only at h
  split at h
  · split at h
    · cases h
    · cases h
      exact id
  · cases h

/-- A script that fails is no fault of the inputs. -/
theorem performScript_isInput {code : String} (h : (performScript x code s).1 = .error fault) :
    ¬fault.IsInput := by
  unfold performScript at h
  dsimp only at h
  split at h
  · cases h
  · split at h
    · cases hover : x.overdue? (s.elapse _) with
      | none =>
        rw [hover] at h
        cases h
        exact id
      | some late =>
        rw [hover] at h
        cases h
        obtain ⟨millis, rfl⟩ := exists_of_overdue? hover
        exact id
    · cases h
      exact id

/-- An update that fails is no fault of the inputs. -/
theorem performUpdate_isInput {id : String} {patch : RowFields}
    (h : (performUpdate x id patch s).1 = .error fault) : ¬fault.IsInput := by
  unfold performUpdate at h
  split at h
  · cases h
    exact fun h => h
  · split at h
    · cases h
      exact fun h => h
    · cases h
      exact fun h => h
    · exact rowResult_isInput h

/-- A removal that fails is no fault of the inputs. -/
theorem performDelete_isInput {id : String} (h : (performDelete x id s).1 = .error fault) :
    ¬fault.IsInput := by
  unfold performDelete at h
  split at h
  · cases h
    exact fun h => h
  · exact rowResult_isInput h

/-- A query that fails is no fault of the inputs. -/
theorem performQuery_isInput {table : String} {filters : RowFields} {limit : Option Nat}
    (h : (performQuery x table filters limit s).1 = .error fault) : ¬fault.IsInput := by
  unfold performQuery at h
  split at h
  · cases h
    exact id
  · cases h

/-- A webhook that fails is no fault of the inputs. -/
theorem performWebhook_isInput {request : WebhookRequest}
    (h : (performWebhook request s).1 = .error fault) : ¬fault.IsInput := by
  unfold performWebhook at h
  dsimp only at h
  split at h
  · cases h
    exact id
  · cases h

/-- Doing a task never fails with a fault of the inputs. -/
theorem perform_isInput {task : Task} (h : (perform x task s).1 = .error fault) :
    ¬fault.IsInput := by
  cases task with
  | collect | log | filter => cases h
  | delay millis => exact performDelay_isInput h
  | createRow table row => exact rowResult_isInput h
  | updateRow id patch => exact performUpdate_isInput h
  | deleteRow id => exact performDelete_isInput h
  | queryRows table filters limit => exact performQuery_isInput h
  | script code => exact performScript_isInput h
  | webhook request => exact performWebhook_isInput h

end Task

/-! ## The task of a step -/

namespace Execution

/-- The task that the resolved inputs of a kind give, or the fault that they have. -/
def taskOf (kind : StepKind) (inputs : Resolver.ResolvedInputs) : Except StepFault Task :=
  match requiredFault? kind inputs with
  | some fault => .error fault
  | none => Task.ofInputs kind inputs.values

/-- Inputs that give a task are used for it, and others are refused. -/
theorem performWith_eq (x : Task.Setting) (kind : StepKind) (inputs : Resolver.ResolvedInputs)
    (s : Services) :
    performWith x kind inputs s =
      match taskOf kind inputs with
      | .error fault => (.error fault, s)
      | .ok task => task.perform x s := by
  rw [performWith, taskOf]
  cases requiredFault? kind inputs with
  | some fault => rfl
  | none => rfl

/-- The faults that inputs have are faults of inputs. -/
theorem taskOf_isInput {kind : StepKind} {inputs : Resolver.ResolvedInputs} {fault : StepFault}
    (h : taskOf kind inputs = .error fault) : fault.IsInput := by
  unfold taskOf at h
  split at h
  · next fault' hrequired =>
    cases h
    obtain ⟨field, -, hfield⟩ := List.exists_of_findSome?_eq_some hrequired
    unfold inputFault? at hfield
    split at hfield
    · cases hfield
      trivial
    · split at hfield
      · cases hfield
        trivial
      · cases hfield
  · unfold Task.ofInputs at h
    cases hread : Task.ofTree kind (.ofJson (.object inputs.values)) with
    | error fault' =>
      rw [hread] at h
      cases h
      trivial
    | ok task =>
      rw [hread] at h
      cases h

variable (c : Config) (tenant : Tenant) (step : Step) (context : Context) (s : Services)

/-- The inputs of a step as an execution of it resolves them. -/
def inputsOf : Resolver.ResolvedInputs :=
  c.stepResolver.resolveInputs context step.inputs

/-- The services when the inputs of a step have been resolved. -/
def resolvedAt : Services :=
  s.elapse (c.stepResolver.timeOfFields context step.inputs)

/-- What the task of a step is done with. -/
def settingOf : Task.Setting :=
  setting c tenant context s.clock.elapsed

/-- The task of a step whose inputs have been resolved in time, or what it fails with. -/
def prepared : Except StepFault Task :=
  match (settingOf c tenant context s).overdue? (resolvedAt c step context s) with
  | some late => .error late
  | none => taskOf step.kind (inputsOf c step context)

/-- An execution does the task that has been prepared. -/
theorem once_eq :
    once c tenant step context s =
      match prepared c tenant step context s with
      | .error fault => (.error fault, resolvedAt c step context s)
      | .ok task =>
        let done := task.perform (settingOf c tenant context s) (resolvedAt c step context s)
        (done.1.map Outputs.normalize, done.2) := by
  rw [once, prepared]
  dsimp only
  rw [performWith_eq, settingOf, resolvedAt, inputsOf]
  cases (setting c tenant context s.clock.elapsed).overdue? _ with
  | some late => rfl
  | none =>
    cases taskOf step.kind (c.stepResolver.resolveInputs context step.inputs) with
    | error fault => rfl
    | ok task => rfl

/-- An execution fails with a fault of the inputs exactly if it is in time and the inputs have
one. -/
theorem once_isInput_iff :
    (∃ fault, (once c tenant step context s).1 = .error fault ∧ fault.IsInput) ↔
      (settingOf c tenant context s).overdue? (resolvedAt c step context s) = none ∧
        ∃ fault, taskOf step.kind (inputsOf c step context) = .error fault := by
  rw [once_eq, prepared]
  cases hlate : (settingOf c tenant context s).overdue? (resolvedAt c step context s) with
  | some late =>
    obtain ⟨millis, rfl⟩ := Task.exists_of_overdue? hlate
    constructor
    · rintro ⟨fault, ⟨⟩, ⟨⟩⟩
    · rintro ⟨⟨⟩, -⟩
  | none =>
    dsimp only
    cases htask : taskOf step.kind (inputsOf c step context) with
    | error fault => exact ⟨fun _ => ⟨rfl, fault, rfl⟩, fun _ => ⟨fault, rfl, taskOf_isInput htask⟩⟩
    | ok task =>
      constructor
      · rintro ⟨fault, hfault, hinput⟩
        dsimp only at hfault
        cases hdone : (task.perform (settingOf c tenant context s)
            (resolvedAt c step context s)).1 with
        | ok outputs =>
          rw [hdone] at hfault
          cases hfault
        | error fault' =>
          rw [hdone] at hfault
          cases hfault
          exact absurd hinput (Task.perform_isInput hdone)
      · rintro ⟨-, fault, ⟨⟩⟩

end Execution

end Automation
