import Automation.Runner

/-!
# Admission

`Runner.Admits` says when a run is admitted: its tenant owns the definition, the payload is an
object or null, the quota allows it, and the definition passes its check. A run that is not admitted
ends at the first of these conditions that fails (`execute_otherTenant`, `execute_badPayload`,
`execute_quota`, `execute_invalid`); one that is starts with the payload as an object
(`execute_admitted`). Of a definition that passes its check the runner needs two things, that the
kinds of its steps are registered and that their names differ (`Definition.Checked`).
-/

namespace Automation

/-! ## What the check of a definition ensures -/

/-- A step passes its check if it has a name of its own and a kind that may be used, and its loop
passes the check. -/
theorem Step.check_eq_ok_iff {step : Step} {registry : Registry} {seen : List String} :
    step.check registry seen = .ok () ↔
      Step.isName step.id = true ∧ step.id ∉ seen ∧ registry.includes step.kind = true ∧
        ∀ loop ∈ step.loop, loop.check step.id step.kind = .ok () := by
  unfold Step.check
  cases hname : Step.isName step.id with
  | false => simp
  | true =>
    by_cases hseen : step.id ∈ seen
    · simp [hseen]
    · cases hkind : registry.includes step.kind with
      | false => simp [hseen]
      | true => cases step.loop <;> simp [hseen]

/-- A loop passes its check only if its failure condition, if it has one, is accepted. -/
theorem Loop.condition_of_check {loop : Loop} {step : String} {kind : StepKind}
    (h : loop.check step kind = .ok ()) {condition : String}
    (hcondition : loop.condition? = some condition) : Condition.check condition = .ok () := by
  unfold Loop.check at h
  rw [hcondition] at h
  split at h
  · cases h
  · dsimp only at h
    cases hcheck : Condition.check condition with
    | error why => rw [hcheck] at h; cases h
    | ok => rfl

/-- The kinds of the steps are registered, and their names differ from each other and from those of
the steps before. -/
structure Definition.Checked (registry : Registry) (seen : List String) (steps : List Step) :
    Prop where
  registered : ∀ step ∈ steps, registry.includes step.kind = true
  nodup : (steps.map (·.id)).Nodup
  fresh : ∀ step ∈ steps, step.id ∉ seen

namespace Definition

/-- The first of checked steps is of a registered kind, and its name is new. -/
theorem Checked.head {registry : Registry} {seen : List String} {step : Step} {rest : List Step}
    (h : Checked registry seen (step :: rest)) :
    registry.includes step.kind = true ∧ step.id ∉ seen :=
  ⟨h.registered step (List.mem_cons_self ..), h.fresh step (List.mem_cons_self ..)⟩

/-- The steps after the first one are checked with its name as one more that is taken. -/
theorem Checked.tail {registry : Registry} {seen : List String} {step : Step} {rest : List Step}
    (h : Checked registry seen (step :: rest)) : Checked registry (step.id :: seen) rest where
  registered other hother := h.registered other (List.mem_cons_of_mem _ hother)
  nodup := (List.nodup_cons.1 h.nodup).2
  fresh other hother hmem := by
    rcases List.mem_cons.1 hmem with hsame | hseen
    · exact (List.nodup_cons.1 h.nodup).1 (List.mem_map.2 ⟨other, hother, hsame⟩)
    · exact h.fresh other (List.mem_cons_of_mem _ hother) hseen

/-- A step of a registered kind with a new name may stand before checked steps. -/
theorem Checked.cons {registry : Registry} {seen : List String} {step : Step} {rest : List Step}
    (hkind : registry.includes step.kind = true) (hname : step.id ∉ seen)
    (h : Checked registry (step.id :: seen) rest) : Checked registry seen (step :: rest) where
  registered := List.forall_mem_cons.2 ⟨hkind, h.registered⟩
  nodup := by
    refine List.nodup_cons.2 ⟨fun hmem => ?_, h.nodup⟩
    obtain ⟨other, hother, hsame⟩ := List.mem_map.1 hmem
    exact h.fresh other hother (hsame ▸ List.mem_cons_self ..)
  fresh := List.forall_mem_cons.2
    ⟨hname, fun other hother hmem => h.fresh other hother (List.mem_cons_of_mem _ hmem)⟩

/-- Which names are taken matters only as far as membership goes. -/
theorem Checked.mono {registry : Registry} {seen seen' : List String} {steps : List Step}
    (h : Checked registry seen steps) (hsub : ∀ name ∈ seen', name ∈ seen) :
    Checked registry seen' steps :=
  ⟨h.registered, h.nodup, fun step hstep hmem => h.fresh step hstep (hsub _ hmem)⟩

/-- Steps that pass the check are of registered kinds, and have names of their own. -/
theorem checkSteps_checked {registry : Registry} {seen : List String} {steps : List Step}
    (h : checkSteps registry seen steps = .ok ()) : Checked registry seen steps := by
  induction steps generalizing seen with
  | nil => exact ⟨by simp, List.nodup_nil, by simp⟩
  | cons step rest ih =>
    rw [checkSteps] at h
    cases hstep : step.check registry seen with
    | error fault => rw [hstep] at h; cases h
    | ok =>
      rw [hstep] at h
      obtain ⟨-, hname, hkind, -⟩ := Step.check_eq_ok_iff.1 hstep
      exact .cons hkind hname (ih h)

/-- Each of the steps that are checked passes its check. -/
theorem checkSteps_step {registry : Registry} {seen : List String} {steps : List Step}
    (h : checkSteps registry seen steps = .ok ()) {step : Step} (hstep : step ∈ steps) :
    ∃ seen', step.check registry seen' = .ok () := by
  induction steps generalizing seen with
  | nil => cases hstep
  | cons first rest ih =>
    rw [checkSteps] at h
    cases hfirst : first.check registry seen with
    | error fault => rw [hfirst] at h; cases h
    | ok =>
      rw [hfirst] at h
      rcases List.mem_cons.1 hstep with rfl | hrest
      · exact ⟨seen, hfirst⟩
      · exact ih h hrest

/-- A definition is refused for what its steps are refused for, and else its warnings are given. -/
theorem check_eq_map (d : Definition) (registry : Registry) :
    d.check registry = (checkSteps registry [] d.steps).map fun _ => d.warnings := by
  rw [check]
  cases checkSteps registry [] d.steps <;> rfl

/-- A definition passes its check, with its warnings, if its steps pass theirs. -/
theorem check_eq_ok_iff {d : Definition} {registry : Registry} {warnings : List Warning} :
    d.check registry = .ok warnings ↔
      checkSteps registry [] d.steps = .ok () ∧ d.warnings = warnings := by
  rw [check_eq_map]
  cases checkSteps registry [] d.steps with
  | error fault => exact ⟨fun h => (nomatch h), fun h => (nomatch h.1)⟩
  | ok => exact ⟨fun h => ⟨rfl, Except.ok.inj h⟩, fun h => congrArg Except.ok h.2⟩

/-- The steps of a definition that passes its check are checked. -/
theorem check_checked {d : Definition} {registry : Registry} {warnings : List Warning}
    (h : d.check registry = .ok warnings) : Checked registry [] d.steps :=
  checkSteps_checked (check_eq_ok_iff.1 h).1

end Definition

namespace Runner

/-! ## The exits of a run before its start -/

/-- A run is admitted. -/
structure Admits (r : Runner) (d : Definition) (payload : Json) (tenant : Tenant) (s : Services) :
    Prop where
  owner : d.tenant = tenant
  payload : (payload? payload).isSome
  quota : s.checkQuota tenant = .ok true
  definition : ∃ warnings, d.check r.registry = .ok warnings

variable (r : Runner) {d : Definition} {payload : Json} {tenant : Tenant} {s : Services}

/-- A run that has not been admitted, with a payload and a fresh id. -/
def freshRun (d : Definition) (payload : Json) (tenant : Tenant) (s : Services) : RunResult :=
  pendingRun d tenant payload s.freshRunId.1 s.now

/-- A run of a definition that another tenant owns is refused. -/
theorem execute_otherTenant (h : d.tenant ≠ tenant) :
    r.execute d payload tenant s =
      refuse (freshRun d payload tenant s) (.otherTenant d.id d.tenant tenant) s.freshRunId.2 := by
  unfold execute Services.freshRunId
  dsimp only
  rw [if_pos h]
  rfl

/-- The payload is looked at if the tenant owns the definition. -/
theorem execute_owned (h : d.tenant = tenant) :
    r.execute d payload tenant s =
      match payload? payload with
      | none =>
        reject (freshRun d payload tenant s) "trigger payload must be a JSON object" s.freshRunId.2
      | some trigger =>
        let run := freshRun d trigger tenant s
        match quotaObjection? tenant s.freshRunId.2 with
        | some reason => reject run reason s.freshRunId.2
        | none =>
          match d.check r.registry with
          | .error fault => refuse run fault s.freshRunId.2
          | .ok _ => r.start d run s.freshRunId.2 := by
  unfold execute Services.freshRunId
  dsimp only
  rw [if_neg (not_not_intro h)]
  rfl

/-- A run whose payload is neither an object nor null is rejected. -/
theorem execute_badPayload (h : d.tenant = tenant) (hp : payload? payload = none) :
    r.execute d payload tenant s =
      reject (freshRun d payload tenant s) "trigger payload must be a JSON object"
        s.freshRunId.2 := by
  rw [execute_owned r h, hp]

/-- A run to which the quota has an objection is rejected. -/
theorem execute_quota {trigger : Json} {reason : String} (h : d.tenant = tenant)
    (hp : payload? payload = some trigger)
    (hq : quotaObjection? tenant s.freshRunId.2 = some reason) :
    r.execute d payload tenant s = reject (freshRun d trigger tenant s) reason s.freshRunId.2 := by
  rw [execute_owned r h, hp]
  dsimp only
  rw [hq]

/-- A run of a definition that does not pass its check is refused. -/
theorem execute_invalid {trigger : Json} {fault : EngineFault} (h : d.tenant = tenant)
    (hp : payload? payload = some trigger) (hq : quotaObjection? tenant s.freshRunId.2 = none)
    (hd : d.check r.registry = .error fault) :
    r.execute d payload tenant s = refuse (freshRun d trigger tenant s) fault s.freshRunId.2 := by
  rw [execute_owned r h, hp]
  dsimp only
  rw [hq, hd]

/-- The quota has no objection to a run that it allows, and taking an id does not change that. -/
theorem quotaObjection?_eq_none_iff :
    quotaObjection? tenant s.freshRunId.2 = none ↔ s.checkQuota tenant = .ok true := by
  have hsame : quotaObjection? tenant s.freshRunId.2 = quotaObjection? tenant s := rfl
  rw [hsame]
  unfold quotaObjection?
  cases s.checkQuota tenant with
  | error fault => simp
  | ok allowed => cases allowed <;> simp

/-- A run that is not admitted is refused or rejected, and has not started then. -/
theorem execute_of_not_admits (h : ¬ r.Admits d payload tenant s) :
    (∃ payload' fault, r.execute d payload tenant s =
        refuse (freshRun d payload' tenant s) fault s.freshRunId.2) ∨
      ∃ payload' reason, r.execute d payload tenant s =
        reject (freshRun d payload' tenant s) reason s.freshRunId.2 := by
  by_cases howner : d.tenant = tenant
  · cases hp : payload? payload with
    | none => exact .inr ⟨_, _, r.execute_badPayload howner hp⟩
    | some trigger =>
      cases hq : quotaObjection? tenant s.freshRunId.2 with
      | some reason => exact .inr ⟨_, _, r.execute_quota howner hp hq⟩
      | none =>
        cases hd : d.check r.registry with
        | error fault => exact .inl ⟨_, _, r.execute_invalid howner hp hq hd⟩
        | ok warnings =>
          exact absurd ⟨howner, by simp [hp], quotaObjection?_eq_none_iff.1 hq, warnings, hd⟩ h
  · exact .inl ⟨_, _, r.execute_otherTenant howner⟩

/-- An admitted run is started. -/
theorem execute_admitted {trigger : Json} (h : r.Admits d payload tenant s)
    (hp : payload? payload = some trigger) :
    r.execute d payload tenant s = r.start d (freshRun d trigger tenant s) s.freshRunId.2 := by
  obtain ⟨warnings, hd⟩ := h.definition
  rw [execute_owned r h.owner, hp]
  dsimp only
  rw [quotaObjection?_eq_none_iff.2 h.quota, hd]

end Runner

end Automation
