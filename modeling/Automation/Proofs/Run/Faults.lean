import Automation.Proofs.Run.Outcome

/-!
# Faults of runs

A run ends with a fault only before it starts, and only for one of three reasons: another tenant
owns the definition, or its check finds a kind that is not registered or something else wrong with
it. Nothing has been published then. Once the check has passed, the steps never end with a fault,
whatever they do (`Runner.runSteps_ending`): their kinds are registered, no two of them record
outputs under one name, and the state they end in is one that a running run may go to. So an
admitted run has a result, and has succeeded or is stopped (`Runner.execute_faults`).
-/

namespace Automation

/-! ## The faults of the check -/

/-- A loop is refused because something is wrong with the definition. -/
theorem Loop.check_fault {loop : Loop} {step : String} {kind : StepKind} {fault : EngineFault}
    (h : loop.check step kind = .error fault) : ∃ reason, fault = .invalidDefinition reason := by
  unfold Loop.check at h
  split at h
  · cases h
    exact ⟨_, rfl⟩
  · split at h
    · cases h
    · next condition _ =>
      cases hcheck : Condition.check condition with
      | ok => rw [hcheck] at h; cases h
      | error why =>
        rw [hcheck] at h
        cases h
        exact ⟨_, rfl⟩

/-- A step is refused because its kind is not registered, or because something is wrong with the
definition. -/
theorem Step.check_fault {step : Step} {registry : Registry} {seen : List String}
    {fault : EngineFault} (h : step.check registry seen = .error fault) :
    (∃ kind, fault = .unregistered kind) ∨ ∃ reason, fault = .invalidDefinition reason := by
  unfold Step.check at h
  split at h
  · cases h
    exact .inr ⟨_, rfl⟩
  · split at h
    · cases h
      exact .inr ⟨_, rfl⟩
    · split at h
      · cases h
        exact .inl ⟨_, rfl⟩
      · split at h
        · cases h
        · exact .inr (Loop.check_fault h)

namespace Definition

/-- The check refuses steps for one of two kinds of reasons. -/
theorem checkSteps_fault {registry : Registry} {seen : List String} {steps : List Step}
    {fault : EngineFault} (h : checkSteps registry seen steps = .error fault) :
    (∃ kind, fault = .unregistered kind) ∨ ∃ reason, fault = .invalidDefinition reason := by
  induction steps generalizing seen with
  | nil => cases h
  | cons step rest ih =>
    rw [checkSteps] at h
    cases hstep : step.check registry seen with
    | error first =>
      rw [hstep] at h
      cases h
      exact Step.check_fault hstep
    | ok =>
      rw [hstep] at h
      exact ih h

/-- The check refuses a definition for one of two kinds of reasons. -/
theorem check_fault {d : Definition} {registry : Registry} {fault : EngineFault}
    (h : d.check registry = .error fault) :
    (∃ kind, fault = .unregistered kind) ∨ ∃ reason, fault = .invalidDefinition reason := by
  rw [check_eq_map] at h
  cases hsteps : checkSteps registry [] d.steps with
  | error first =>
    rw [hsteps] at h
    cases h
    exact checkSteps_fault hsteps
  | ok => rw [hsteps] at h; cases h

end Definition

namespace Runner

variable (r : Runner)

/-! ## Running steps -/

/-- The steps of a definition that passes its check end without a fault, in a state that a running
run may go to. The run itself is still in the state in which it was. -/
theorem runSteps_ending {d : Definition} {warnings : List Warning}
    (h : d.check r.registry = .ok warnings) (run : RunResult) (s : Services) :
    ∃ ending c, r.runSteps 1 d.steps (r.startCourse d run s) = (.ok ending, c) ∧
      (ending = .success ∨ ending = .stopped) ∧ c.run.status = run.status := by
  obtain ⟨results, σ, -, -, heq⟩ := r.runSteps_run run 1 d.steps
    ⟨r.startContext run, s.publish (startEvent d run s.now)⟩ (Definition.check_checked h) rfl
  refine ⟨_, _, heq, ?_, rfl⟩
  split
  · exact .inr rfl
  · exact .inl rfl

/-- A run that is rejected has a result. -/
theorem reject_ne_error {d : Definition} {payload : Json} {tenant : Tenant} {reason : String}
    {s : Services} {fault : RunFault} :
    (reject (freshRun d payload tenant s) reason s.freshRunId.2).1 ≠ .error fault := by
  rw [reject_eq]
  exact fun h => nomatch h

/-- An admitted run has a result, and has succeeded or is stopped. -/
theorem Admits.result {r : Runner} {d : Definition} {payload : Json} {tenant : Tenant}
    {s : Services} (h : r.Admits d payload tenant s) :
    ∃ run, (r.execute d payload tenant s).1 = .ok run ∧
      (run.status = .success ∨ run.status = .stopped) := by
  obtain ⟨run, σ, hrun⟩ := h.completed
  exact ⟨run, congrArg Prod.fst hrun.execute, hrun.ending⟩

/-! ## Whole runs -/

/-- What a fault says about a run of a tenant: either another tenant owns the definition, or it does
not pass its check, which is made if the tenant owns it, the payload is an object or null and the
quota allows the run. -/
inductive Faults (d : Definition) (payload : Json) (tenant : Tenant) (s : Services) :
    EngineFault → Prop
  | otherTenant : d.tenant ≠ tenant → Faults d payload tenant s (.otherTenant d.id d.tenant tenant)
  | unregistered (kind : StepKind) : d.tenant = tenant → (payload? payload).isSome →
      s.checkQuota tenant = .ok true → d.check r.registry = .error (.unregistered kind) →
      Faults d payload tenant s (.unregistered kind)
  | invalid (reason : DefinitionFault) : d.tenant = tenant → (payload? payload).isSome →
      s.checkQuota tenant = .ok true → d.check r.registry = .error (.invalidDefinition reason) →
      Faults d payload tenant s (.invalidDefinition reason)

/-- A run ends with a fault only if it is refused: for one of three reasons, before it is admitted,
without results and without an event. Once the check has passed, neither the steps nor the change of
state at their end can be a fault. Every admitted run has a result, with success or stopped. -/
theorem execute_faults (d : Definition) (payload : Json) (tenant : Tenant) (s : Services) :
    (∀ fault, (r.execute d payload tenant s).1 = .error fault →
      r.Faults d payload tenant s fault.fault ∧ ¬ r.Admits d payload tenant s ∧
      fault.run.status = .failed ∧ fault.run.steps = [] ∧
      (r.execute d payload tenant s).2.log = s.log) ∧
    (∀ warnings, d.check r.registry = .ok warnings → ∀ (run : RunResult) (s : Services),
      ∃ ending c, r.runSteps 1 d.steps (r.startCourse d run s) = (.ok ending, c) ∧
        (run.status = .running →
          c.run.become ending = .ok { c.run with status := ending })) ∧
    (r.Admits d payload tenant s → ∃ run, (r.execute d payload tenant s).1 = .ok run ∧
      (run.status = .success ∨ run.status = .stopped)) := by
  refine ⟨?_, ?_, Admits.result⟩
  · intro fault hfault
    have hadmits : ¬ r.Admits d payload tenant s := by
      intro h
      obtain ⟨run, hrun, -⟩ := h.result
      rw [hrun] at hfault
      cases hfault
    by_cases howner : d.tenant = tenant
    · cases hp : payload? payload with
      | none =>
        rw [r.execute_badPayload howner hp] at hfault
        exact absurd hfault reject_ne_error
      | some trigger =>
        have hpayload : (payload? payload).isSome := by simp [hp]
        cases hq : quotaObjection? tenant s.freshRunId.2 with
        | some reason =>
          rw [r.execute_quota howner hp hq] at hfault
          exact absurd hfault reject_ne_error
        | none =>
          have hquota := quotaObjection?_eq_none_iff.1 hq
          cases hd : d.check r.registry with
          | ok warnings => exact absurd ⟨howner, hpayload, hquota, warnings, hd⟩ hadmits
          | error why =>
            rw [r.execute_invalid howner hp hq hd] at hfault ⊢
            cases hfault
            refine ⟨?_, hadmits, rfl, rfl, rfl⟩
            rcases Definition.check_fault hd with ⟨kind, rfl⟩ | ⟨reason, rfl⟩
            · exact .unregistered kind howner hpayload hquota hd
            · exact .invalid reason howner hpayload hquota hd
    · rw [r.execute_otherTenant howner] at hfault ⊢
      cases hfault
      exact ⟨.otherTenant howner, hadmits, rfl, rfl, rfl⟩
  · intro warnings hd run s
    obtain ⟨ending, c, hrun, hending, hstatus⟩ := r.runSteps_ending hd run s
    refine ⟨ending, c, hrun, fun hrunning => ?_⟩
    have hmay : c.run.status.mayBecome ending = true := by
      rw [hstatus, hrunning]
      rcases hending with rfl | rfl
      · rfl
      · rfl
    rw [RunResult.become, if_pos hmay]

end Runner

end Automation
