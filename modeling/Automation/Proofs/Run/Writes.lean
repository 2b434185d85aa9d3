import Automation.Definition.Stored
import Automation.Proofs.Run.Outcome

/-!
# What a run writes

The documents of other tenants and those that are no rows are out of the reach of a step
(`Services.BeyondRows`): every request keeps them (`Services.Request.sameDocuments`), and so do all
steps of a run and the events around them (`Runner.Completed.sameDocuments`). Only at its end a run
that was admitted writes one more document, its log, if that is to be kept and the store is in
service. `Runner.execute_writes` says so of every call, and that the definitions in the store are as
they were.
-/

namespace Automation

namespace Services

/-- A document of another tenant, or one whose id is not that of a row. -/
def BeyondRows (tenant owner : Tenant) (id : String) : Prop :=
  owner ≠ tenant ∨ Row.isId id = false

/-- The documents beyond the rows of a tenant are the same, and the store is in service for the same
requests. -/
structure SameDocuments (tenant : Tenant) (s t : Services) : Prop where
  found : ∀ owner id, BeyondRows tenant owner id →
    (t.store.partition owner).lookup id = (s.store.partition owner).lookup id
  outages : t.storeOutages = s.storeOutages

variable {tenant : Tenant}

/-- Services have their own documents. -/
theorem SameDocuments.refl (s : Services) : SameDocuments tenant s s :=
  ⟨fun _ _ _ => rfl, rfl⟩

/-- Documents that are kept twice are kept. -/
theorem SameDocuments.trans {s t u : Services} (h : SameDocuments tenant s t)
    (h' : SameDocuments tenant t u) : SameDocuments tenant s u :=
  ⟨fun owner id hbeyond => (h'.found owner id hbeyond).trans (h.found owner id hbeyond),
    h'.outages.trans h.outages⟩

/-- With the store itself all documents are kept. -/
theorem SameDocuments.of_eq {s t : Services} (hstore : t.store = s.store)
    (houtages : t.storeOutages = s.storeOutages) : SameDocuments tenant s t :=
  ⟨fun _ _ _ => by rw [hstore], houtages⟩

/-- A document beyond the rows is none of the rows of the tenant. -/
theorem BeyondRows.ne {owner : Tenant} {id row : String} (h : BeyondRows tenant owner id)
    (hrow : Row.isId row = true) : owner ≠ tenant ∨ id ≠ row := by
  refine h.imp_right fun hid heq => ?_
  rw [heq, hrow] at hid
  cases hid

/-- No request of a step reaches beyond the rows of its tenant. -/
theorem Request.sameDocuments {s t : Services} (h : Request tenant s t) :
    SameDocuments tenant s t := by
  cases h with
  | elapse | suffix | send => exact .of_eq rfl rfl
  | put hrow =>
    exact ⟨fun owner id hbeyond => s.lookup_putDocument_ne tenant (hbeyond.ne hrow),
      s.storeOutages_putDocument tenant _⟩
  | remove hrow =>
    exact ⟨fun owner id hbeyond => s.lookup_removeDocument_ne tenant (hbeyond.ne hrow),
      s.storeOutages_removeDocument tenant _⟩

/-- No request of a step touches documents that are no rows of the tenant. -/
theorem keptByRequests_sameDocuments (s : Services) :
    KeptByRequests tenant (SameDocuments tenant s) :=
  fun _ _ hrequest hs => hs.trans hrequest.sameDocuments

/-- Publishing an event touches no documents. -/
theorem publish_sameDocuments (s : Services) (e : Event) : SameDocuments tenant s (s.publish e) :=
  .of_eq (s.publish_sameStore e).1 (s.publish_sameStore e).2

/-- Counting a run does not touch the store. -/
theorem countRun_sameStore (s : Services) (t : Tenant) :
    (s.countRun t).store = s.store ∧ (s.countRun t).storeOutages = s.storeOutages := by
  unfold countRun
  split
  · exact ⟨rfl, rfl⟩
  · exact ⟨rfl, rfl⟩

section
variable {s t : Services} (h : SameDocuments tenant s t) {owner : Tenant} {id : String}
  (hbeyond : BeyondRows tenant owner id)
include h hbeyond

/-- The same document is found. -/
theorem SameDocuments.get? : t.store.get? owner id = s.store.get? owner id := by
  rw [Store.get?, h.found owner id hbeyond]
  rfl

/-- The document has the same revision. -/
theorem SameDocuments.revision : t.store.revision owner id = s.store.revision owner id := by
  rw [Store.revision, h.found owner id hbeyond]
  rfl

end

/-- A definition is loaded as before if its document and the requests in service are the same. -/
theorem load_eq {s t : Services} (houtages : t.storeOutages = s.storeOutages) {owner : Tenant}
    {id : String} (h : t.store.get? owner id = s.store.get? owner id) :
    Definition.load owner id t = Definition.load owner id s := by
  have hget : t.getDocument owner id = s.getDocument owner id := by
    unfold getDocument ifStored
    rw [houtages, h]
  unfold Definition.load
  rw [hget]

end Services

open Services

/-- A step reaches no document beyond the rows of its tenant. -/
theorem Execution.step_sameDocuments (c : Config) (tenant : Tenant) (step : Step) (p : Progress) :
    SameDocuments tenant p.services (Execution.step c tenant step p).2.services :=
  step_keeps c tenant (keptByRequests_sameDocuments p.services) step (.refl _)

namespace Runner

/-- The log of a run is no row. -/
theorem isId_logId (run : RunResult) : Row.isId run.logId = false := by
  have hchars : run.logId.toList =
      'l' :: ("og_" ++ run.automation ++ "_" ++ run.runId).toList := by
    simp [RunResult.logId, String.toList_append]
  rw [Row.isId, Text.startsWith, hchars]
  rfl

section
variable {r : Runner} {d : Definition} {payload : Json} {tenant : Tenant} {s : Services}
  {run : RunResult} {σ : Nat → Services}

/-- The steps of a run that was admitted reach no document beyond the rows of its tenant. -/
theorem Completed.sameDocuments (h : Completed r d payload tenant s run σ) :
    SameDocuments tenant s (σ run.steps.length) := by
  have hfresh : SameDocuments tenant s s.freshRunId.2 := .of_eq rfl rfl
  have hstart : SameDocuments tenant s (σ 0) := by
    rw [h.start]
    exact hfresh.trans (publish_sameDocuments _ _)
  refine h.steps.invariant (fun position step p hp => ?_) hstart (Nat.le_refl _)
  have hstep := Execution.step_sameDocuments r.config run.tenant step p
  rw [h.tenant] at hstep
  unfold servicesAfter
  rw [h.tenant]
  exact (hp.trans hstep).trans (publish_sameDocuments _ _)

/-- The log of a run has an id of the definition's and the run's ids. -/
theorem Completed.logId_eq (h : Completed r d payload tenant s run σ) :
    run.logId = "log_" ++ d.id ++ "_" ++ s.freshRunId.1 := by
  rw [RunResult.logId, h.automation, h.runId]

/-- At the end of a run its log is written, if logs are kept. -/
theorem finish_store (run : RunResult) (s : Services) :
    (r.finish run s).storeOutages = s.storeOutages ∧ (r.finish run s).store =
      if r.config.persistsRunLogs = true then
        (s.putDocument run.tenant { id := run.logId, body := run.toJson }).2.store
      else s.store := by
  obtain ⟨hstore, houtages⟩ := (s.publish (finishEvent run s.now)).countRun_sameStore run.tenant
  have hpublish := s.publish_sameStore (finishEvent run s.now)
  rw [hpublish.1] at hstore
  rw [hpublish.2] at houtages
  unfold finish
  dsimp only
  split
  · rw [persist, storeOutages_putDocument, store_putDocument, store_putDocument, houtages, hstore]
    exact ⟨rfl, rfl⟩
  · exact ⟨houtages, hstore⟩

/-- What a run that was admitted leaves of a document beyond the rows: the log of the run, if that
is kept and can be written, and otherwise what was there. -/
theorem Completed.get? (h : Completed r d payload tenant s run σ) {owner : Tenant} {id : String}
    (hbeyond : BeyondRows tenant owner id) :
    (r.execute d payload tenant s).2.store.get? owner id =
      if r.config.persistsRunLogs = true ∧ s.storeOutages.lookup .put = none ∧
          owner = tenant ∧ id = run.logId then
        some ⟨run.logId, s.store.revision tenant run.logId + 1, run.toJson⟩
      else s.store.get? owner id := by
  have hsame := h.sameDocuments
  -- The log is no row itself, so the steps leave its document at the revision it had.
  have hlog : BeyondRows tenant tenant run.logId := .inr (isId_logId run)
  rw [h.execute]
  dsimp only
  rw [(finish_store run _).2, h.tenant, store_putDocument, hsame.outages]
  by_cases hpersists : r.config.persistsRunLogs = true
  · by_cases hserved : s.storeOutages.lookup .put = none
    · rw [if_pos hpersists, if_pos hserved]
      by_cases hself : owner = tenant ∧ id = run.logId
      · obtain ⟨rfl, rfl⟩ := hself
        rw [if_pos ⟨hpersists, hserved, rfl, rfl⟩, ← hsame.revision hlog]
        exact Store.get?_put_self _ _ _
      · have hother := Classical.not_and_iff_not_or_not.1 hself
        rw [if_neg fun hall => hself hall.2.2, Store.get?_put_ne _ _ hother]
        exact hsame.get? hbeyond
    · rw [if_pos hpersists, if_neg hserved, if_neg fun hall => hserved hall.2.1]
      exact hsame.get? hbeyond
  · rw [if_neg hpersists, if_neg fun hall => hpersists hall.1]
    exact hsame.get? hbeyond

/-- A call that is not admitted leaves the store alone. -/
theorem execute_sameStore (h : ¬ r.Admits d payload tenant s) :
    (r.execute d payload tenant s).2.store = s.store ∧
      (r.execute d payload tenant s).2.storeOutages = s.storeOutages := by
  rcases r.execute_of_not_admits h with ⟨payload', fault, heq⟩ | ⟨payload', reason, heq⟩
  · rw [heq]
    exact ⟨rfl, rfl⟩
  · rw [heq, reject_eq]
    exact publish_sameStore _ _

end

variable (r : Runner)

/-- A call for a tenant changes no document of another tenant, and of the tenant's own only rows,
whatever its steps and inputs are and however it ends. The one exception is the log of a run that
was admitted, if logs are kept: the run is written there under its id, unless writing is out of
service. In particular a definition that is stored under an id that is not that of a row is loaded
after the call, and after each step, as it was before. -/
theorem execute_writes (d : Definition) (payload : Json) (tenant : Tenant) (s : Services) :
    let s' := (r.execute d payload tenant s).2
    let logId := "log_" ++ d.id ++ "_" ++ s.freshRunId.1
    let logged := r.Admits d payload tenant s ∧ r.config.persistsRunLogs = true
    (∀ owner id, owner ≠ tenant ∨ Row.isId id = false →
      ¬ (logged ∧ owner = tenant ∧ id = logId) →
      s'.store.get? owner id = s.store.get? owner id ∧
        Definition.load owner id s' = Definition.load owner id s) ∧
    (logged → ∃ run, (r.execute d payload tenant s).1 = .ok run ∧ run.automation = d.id ∧
      run.runId = s.freshRunId.1 ∧ s'.store.get? tenant logId =
        if s.storeOutages.lookup .put = none then
          some ⟨logId, s.store.revision tenant logId + 1, run.toJson⟩
        else s.store.get? tenant logId) ∧
    ∀ (c : Config) (step : Step) (p : Progress) owner id, owner ≠ tenant ∨ Row.isId id = false →
      let q := (Execution.step c tenant step p).2
      q.services.store.get? owner id = p.services.store.get? owner id ∧
        Definition.load owner id q.services = Definition.load owner id p.services := by
  intro s' logId logged
  refine ⟨fun owner id hbeyond hnot => ?_, fun hlogged => ?_, fun c step p owner id hbeyond => ?_⟩
  · by_cases hadmits : r.Admits d payload tenant s
    · obtain ⟨run, σ, hrun⟩ := hadmits.completed
      have hget : s'.store.get? owner id = s.store.get? owner id := by
        rw [hrun.get? hbeyond, if_neg]
        rintro ⟨hpersists, -, howner, hid⟩
        exact hnot ⟨⟨hadmits, hpersists⟩, howner, hid.trans hrun.logId_eq⟩
      have houtages : s'.storeOutages = s.storeOutages := by
        dsimp only [s']
        rw [hrun.execute]
        exact (finish_store run _).1.trans hrun.sameDocuments.outages
      exact ⟨hget, load_eq houtages hget⟩
    · obtain ⟨hstore, houtages⟩ := execute_sameStore hadmits
      have hget : s'.store.get? owner id = s.store.get? owner id := by rw [hstore]
      exact ⟨hget, load_eq houtages hget⟩
  · obtain ⟨hadmits, hpersists⟩ := hlogged
    obtain ⟨run, σ, hrun⟩ := hadmits.completed
    have hlogId : run.logId = logId := hrun.logId_eq
    refine ⟨run, congrArg Prod.fst hrun.execute, hrun.automation, hrun.runId, ?_⟩
    rw [← hlogId, hrun.get? (.inr (isId_logId run))]
    simp only [hpersists, true_and, and_true]
  · have hsame := Execution.step_sameDocuments c tenant step p
    exact ⟨hsame.get? hbeyond, load_eq hsame.outages (hsame.get? hbeyond)⟩

/-- A run that is asked to remove its own definition leaves it and writes its log. -/
theorem execute_writes_self :
    let d : Definition :=
      { id := "a", tenant := ⟨"t"⟩, trigger := { event := .cron },
        steps := [
          { id := "x", kind := .deleteRow, inputs := ⟨[("row_id", .string "a")], by decide⟩ }] }
    let r : Runner := { config := { persistsRunLogs := true } }
    let s : Services := { clock := default, store := ⟨⟨[(⟨"t"⟩, [("a", ⟨1, d.toJson⟩)])]⟩⟩ }
    Row.isId "a" = false ∧ r.Admits d .null ⟨"t"⟩ s ∧
      Definition.load ⟨"t"⟩ "a" (r.execute d .null ⟨"t"⟩ s).2 = Definition.load ⟨"t"⟩ "a" s ∧
      ∃ run : RunResult, (r.execute d .null ⟨"t"⟩ s).2.store.get? ⟨"t"⟩ "log_a_run-1" =
        some ⟨"log_a_run-1", 1, run.toJson⟩ := by
  intro d r s
  have hrow : Row.isId "a" = false := by decide
  have hadmits : r.Admits d .null ⟨"t"⟩ s := ⟨rfl, rfl, rfl, [], rfl⟩
  obtain ⟨hsame, hlog, -⟩ := r.execute_writes d .null ⟨"t"⟩ s
  have hname : "log_" ++ d.id ++ "_" ++ s.freshRunId.1 = "log_a_run-1" := by decide +kernel
  rw [hname] at hsame hlog
  obtain ⟨run, -, -, -, hwritten⟩ := hlog ⟨hadmits, rfl⟩
  have hother : "a" ≠ "log_a_run-1" := by decide
  exact ⟨hrow, hadmits, (hsame ⟨"t"⟩ "a" (.inr hrow) fun h => hother h.2.2).2, run, hwritten⟩

end Runner

end Automation
