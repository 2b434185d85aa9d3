import Automation.Proofs.Execution.Isolation
import Automation.Runner

/-!
# Runs see nothing of other tenants

A run for a tenant depends on nothing that belongs to other tenants (`Runner.execute_isolated`): if
two runners have the same environment for the tenant (`Runner.Alike`), and the services are alike
for the tenant, then the run comes to the same result with both, publishes the same events and sends
the same webhooks, and leaves services that are alike for the tenant. This is shown for one step
(`Runner.runStep_matches`), for all steps by induction (`Runner.runSteps_matches`), and for each of
the ways in which a run may end.
-/

namespace Automation.Runner

open Services

/-- Two runners differ at most in the environments of other tenants. -/
structure Alike (tenant : Tenant) (r r' : Runner) : Prop where
  registry : r'.registry = r.registry
  config : r'.config = r.config
  environment : r'.environments.get tenant = r.environments.get tenant

/-- Two ways of going on with a run of a tenant have the same result, come to the same run in the
same context, and leave services in step. -/
structure CourseMatches {α : Type} (tenant : Tenant) (origin origin' : Services)
    (a b : α × Course) : Prop where
  result : b.1 = a.1
  run : b.2.run = a.2.run
  owner : a.2.run.tenant = tenant
  context : b.2.progress.context = a.2.progress.context
  services : InStep tenant origin origin' a.2.progress.services b.2.progress.services

variable {r r' : Runner} {tenant : Tenant} {origin origin' s t : Services}

/-! ## Steps -/

/-- A step of a run does the same in states that are in step. -/
theorem runStep_matches (hr : Alike tenant r r') (position : Nat) (step : Step) {run : RunResult}
    (hrun : run.tenant = tenant) (context : Context) (h : InStep tenant origin origin' s t) :
    CourseMatches tenant origin origin' (r.runStep position step ⟨run, ⟨context, s⟩⟩)
      (r'.runStep position step ⟨run, ⟨context, t⟩⟩) := by
  subst hrun
  have hstep := Execution.step_matches r.config step context h
  unfold runStep
  rw [hr.registry, hr.config]
  split
  · exact ⟨rfl, rfl, rfl, rfl, h⟩
  · dsimp only
    generalize Execution.step r.config run.tenant step ⟨context, s⟩ = first at hstep ⊢
    generalize Execution.step r.config run.tenant step ⟨context, t⟩ = second at hstep ⊢
    obtain ⟨outcome, ⟨context', s'⟩⟩ := first
    obtain ⟨outcome', ⟨context'', t'⟩⟩ := second
    obtain ⟨houtcome, hcontext, hservices⟩ := hstep
    dsimp only at houtcome hcontext hservices ⊢
    subst houtcome hcontext
    split
    · exact ⟨rfl, rfl, rfl, rfl, hservices⟩
    · refine ⟨rfl, rfl, rfl, rfl, ?_⟩
      dsimp only
      rw [hservices.now_eq]
      exact hservices.publish _

/-- The steps of a run do the same in states that are in step. -/
theorem runSteps_matches (hr : Alike tenant r r') (position : Nat) (steps : List Step)
    {run : RunResult} (hrun : run.tenant = tenant) (context : Context)
    (h : InStep tenant origin origin' s t) :
    CourseMatches tenant origin origin' (r.runSteps position steps ⟨run, ⟨context, s⟩⟩)
      (r'.runSteps position steps ⟨run, ⟨context, t⟩⟩) := by
  -- Each step hands on the run, its context and services that are in step again.
  induction steps generalizing position run context s t with
  | nil => exact ⟨rfl, rfl, hrun, rfl, h⟩
  | cons step rest ih =>
    have hstep := runStep_matches hr position step hrun context h
    rw [runSteps, runSteps]
    generalize r.runStep position step ⟨run, ⟨context, s⟩⟩ = first at hstep ⊢
    generalize r'.runStep position step ⟨run, ⟨context, t⟩⟩ = second at hstep ⊢
    obtain ⟨verdict, ⟨run', ⟨context', s'⟩⟩⟩ := first
    obtain ⟨verdict', ⟨run'', ⟨context'', t'⟩⟩⟩ := second
    obtain ⟨hverdict, hsame, howner, hcontext, hservices⟩ := hstep
    dsimp only at hverdict hsame howner hcontext hservices
    subst hverdict hsame hcontext
    cases verdict' with
    | error fault => exact ⟨rfl, rfl, howner, rfl, hservices⟩
    | ok status =>
      cases status with
      | stopped => exact ⟨rfl, rfl, howner, rfl, hservices⟩
      | success | failed => exact ih (position + 1) howner _ hservices

/-! ## Ends -/

/-- A run that changes its state keeps its tenant. -/
theorem become_tenant {run run' : RunResult} {next : RunStatus} (h : run.become next = .ok run') :
    run'.tenant = run.tenant := by
  unfold RunResult.become at h
  split at h
  · cases h
    rfl
  · cases h

/-- A refusal is the same on both sides. -/
theorem refuse_matches (run : RunResult) (fault : EngineFault)
    (h : InStep tenant origin origin' s t) :
    Matches tenant origin origin' (refuse run fault s) (refuse run fault t) := by
  refine ⟨?_, h⟩
  rw [refuse, refuse, h.now_eq]

/-- A rejection is the same on both sides. -/
theorem reject_matches (run : RunResult) (reason : String)
    (h : InStep tenant origin origin' s t) :
    Matches tenant origin origin' (reject run reason s) (reject run reason t) := by
  unfold reject
  split
  · exact refuse_matches run _ h
  · next run' _ =>
    have hpublished := h.publish
      ((run'.event .runRejected s.now).withProperty "reason" (.string reason))
    dsimp only
    rw [h.now_eq, hpublished.now_eq]
    exact ⟨rfl, hpublished⟩

/-- The end of a run leaves states in step. -/
theorem finish_inStep (hr : Alike tenant r r') {run : RunResult} (hrun : run.tenant = tenant)
    (h : InStep tenant origin origin' s t) :
    InStep tenant origin origin' (r.finish run s) (r'.finish run t) := by
  have hcounted := (h.publish (finishEvent run s.now)).countRun
  unfold finish
  dsimp only
  rw [h.now_eq, hr.config, hrun]
  split
  · unfold persist
    rw [hrun]
    exact (hcounted.putDocument _).2
  · exact hcounted

/-- A run ends in the same way on both sides. -/
theorem conclude_matches (hr : Alike tenant r r') (ending : Except EngineFault RunStatus)
    {run : RunResult} (hrun : run.tenant = tenant) (h : InStep tenant origin origin' s t) :
    Matches tenant origin origin' (r.conclude ending run s) (r'.conclude ending run t) := by
  unfold conclude
  dsimp only
  rw [h.now_eq]
  split
  · exact ⟨rfl, finish_inStep hr hrun h⟩
  · split
    · exact ⟨rfl, finish_inStep hr hrun h⟩
    · next hbecome =>
      exact ⟨rfl, finish_inStep hr ((become_tenant hbecome).trans hrun) h⟩

/-! ## Whole runs -/

/-- An admitted run goes the same way on both sides. -/
theorem start_matches (hr : Alike tenant r r') (d : Definition) {run : RunResult}
    (hrun : run.tenant = tenant) (h : InStep tenant origin origin' s t) :
    Matches tenant origin origin' (r.start d run s) (r'.start d run t) := by
  unfold start
  split
  · exact refuse_matches run _ h
  · next run' hbecome =>
    have hrun' := (become_tenant hbecome).trans hrun
    have hcontext : r'.startContext run' = r.startContext run' := by
      rw [startContext, startContext, hrun', hr.environment]
    have hsteps := runSteps_matches hr 1 d.steps hrun' (r.startContext run')
      (h.publish (startEvent d run' s.now))
    unfold startCourse
    rw [hcontext, h.now_eq]
    generalize r.runSteps 1 d.steps _ = first at hsteps ⊢
    generalize r'.runSteps 1 d.steps _ = second at hsteps ⊢
    obtain ⟨ending, ⟨run₁, ⟨context₁, s'⟩⟩⟩ := first
    obtain ⟨ending', ⟨run₂, ⟨context₂, t'⟩⟩⟩ := second
    obtain ⟨hending, hsame, howner, -, hservices⟩ := hsteps
    dsimp only at hending hsame howner hservices ⊢
    subst hending hsame
    exact conclude_matches hr _ howner hservices

/-- A run for a tenant depends on nothing that belongs to other tenants. With runners that are alike
for the tenant, and from services that are, it comes to the same result, publishes the same events
and sends the same webhooks, and the tenant has the same documents and the same count of runs
afterwards. -/
theorem execute_isolated (hr : Alike tenant r r') (h : Services.Alike tenant s t) (d : Definition)
    (payload : Json) :
    (r'.execute d payload tenant t).1 = (r.execute d payload tenant s).1 ∧
      InStep tenant s t (r.execute d payload tenant s).2 (r'.execute d payload tenant t).2 := by
  have hfresh : InStep tenant s t s.freshRunId.2 t.freshRunId.2 :=
    { h.inStep with runsStarted := by rw [freshRunId, freshRunId, h.runsStarted] }
  have hid : t.freshRunId.1 = s.freshRunId.1 := by rw [freshRunId, freshRunId, h.runsStarted]
  have hquota : quotaObjection? tenant t.freshRunId.2 = quotaObjection? tenant s.freshRunId.2 := by
    rw [quotaObjection?, quotaObjection?, hfresh.checkQuota_eq]
  unfold execute
  dsimp only
  rw [hid, hquota, hfresh.now_eq, hr.registry]
  split
  · exact refuse_matches _ _ hfresh
  · split
    · exact reject_matches _ _ hfresh
    · split
      · exact reject_matches _ _ hfresh
      · split
        · exact refuse_matches _ _ hfresh
        · exact start_matches hr d rfl hfresh

/-- A run that lists a tenant's rows, with and without a row and an environment of another
tenant. -/
theorem execute_isolated_rows :
    let own : Tenant := ⟨"t"⟩
    let other : Tenant := ⟨"u"⟩
    let d : Definition :=
      { id := "a", tenant := own, trigger := { event := .cron },
        steps := [{
          id := "x", kind := .queryRows
          inputs := ⟨[("table_id", .string "p")], by decide⟩ }] }
    let row : Document := { id := "ro_p_1", body := .object [("table_id", .string "p")] }
    let r : Runner := {}
    let r' : Runner := { environments := PerTenant.empty.set other [("key", "value")] }
    let s : Services := { clock := default }
    let t : Services := { clock := default, store := (Store.put {} other row).2 }
    Alike own r r' ∧ Services.Alike own s t ∧
      s.store.count other = 0 ∧ t.store.count other = 1 ∧
      (r'.execute d .null own t).1 = (r.execute d .null own s).1 := by
  intro own other d row r r' s t
  have hr : Alike own r r' := ⟨rfl, rfl, rfl⟩
  have h : Services.Alike own s t := by constructor <;> rfl
  exact ⟨hr, h, rfl, rfl, (execute_isolated hr h d .null).1⟩

end Automation.Runner
