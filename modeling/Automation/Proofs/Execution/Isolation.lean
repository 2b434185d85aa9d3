import Automation.Execution.Step

/-!
# Steps see nothing of other tenants

Two states of the services are alike for a tenant if they agree on what is the tenant's own, its
documents, its count and its limit, and on what belongs to nobody, such as the clock and the answers
of webhooks (`Services.Alike`). Whatever is done for the tenant has the same result in both, and
leaves states that are alike, with the same events published and the same webhooks sent since
(`Services.InStep`). This holds of single requests, of tasks (`Task.perform_matches`), of loops and
of whole steps (`Execution.step_matches`).
-/

namespace Automation

namespace Services

/-- Two states of the services agree on everything but the documents, counts and limits of other
tenants, and the events and requests of the past. -/
structure Alike (tenant : Tenant) (s t : Services) : Prop where
  partition : t.store.partition tenant = s.store.partition tenant
  storeOutages : t.storeOutages = s.storeOutages
  usage : t.quota.usage tenant = s.quota.usage tenant
  limit : t.quota.limit? tenant = s.quota.limit? tenant
  quotaOutages : t.quotaOutages = s.quotaOutages
  dropsEvents : t.dropsEvents = s.dropsEvents
  answers : t.webhooks.answers = s.webhooks.answers
  beyond : t.webhooks.beyond = s.webhooks.beyond
  clock : t.clock = s.clock
  runsStarted : t.runsStarted = s.runsStarted
  rowSuffix : t.rowSuffix = s.rowSuffix
  rowsCreated : t.rowsCreated = s.rowsCreated

/-- Two states of the services are alike for a tenant, and since they were `origin` and `origin'`
the same events have been published and the same webhooks sent. -/
structure InStep (tenant : Tenant) (origin origin' s t : Services) : Prop extends
    Alike tenant s t where
  events : ∃ events, s.log.events = origin.log.events ++ events ∧
    t.log.events = origin'.log.events ++ events
  sent : ∃ requests, s.webhooks.sent = origin.webhooks.sent ++ requests ∧
    t.webhooks.sent = origin'.webhooks.sent ++ requests

/-- States that are alike are in step from there on. -/
theorem Alike.inStep {tenant : Tenant} {s t : Services} (h : Alike tenant s t) :
    InStep tenant s t s t :=
  ⟨h, ⟨[], (List.append_nil _).symm, (List.append_nil _).symm⟩,
    ⟨[], (List.append_nil _).symm, (List.append_nil _).symm⟩⟩

/-- Two ways of doing something have the same result and leave states in step. -/
def Matches {α : Type} (tenant : Tenant) (origin origin' : Services) (a b : α × Services) : Prop :=
  b.1 = a.1 ∧ InStep tenant origin origin' a.2 b.2

variable {tenant : Tenant} {origin origin' s t : Services}

/-! ## Single requests -/

/-- Services that are alike have the same time. -/
theorem Alike.now_eq (h : Alike tenant s t) : t.now = s.now := by
  rw [now, now, h.clock]

/-- Time that passes on both sides keeps them in step. -/
theorem InStep.elapse (h : InStep tenant origin origin' s t) (millis : Nat) :
    InStep tenant origin origin' (s.elapse millis) (t.elapse millis) :=
  { h with clock := by rw [Services.elapse, Services.elapse, h.clock] }

/-- Both sides draw the same suffix, and stay in step. -/
theorem InStep.freshRowSuffix (h : InStep tenant origin origin' s t) :
    Matches tenant origin origin' s.freshRowSuffix t.freshRowSuffix := by
  refine ⟨?_, { h with rowsCreated := ?_ }⟩
  · rw [Services.freshRowSuffix, Services.freshRowSuffix, h.rowSuffix, h.rowsCreated]
  · rw [Services.freshRowSuffix, Services.freshRowSuffix, h.rowsCreated]

/-- A document of the tenant is found in both states or in neither. -/
theorem Alike.getDocument_eq (h : Alike tenant s t) (id : String) :
    t.getDocument tenant id = s.getDocument tenant id := by
  unfold getDocument ifStored Store.get?
  rw [h.storeOutages, h.partition]

/-- Services that are alike list the same documents of the tenant. -/
theorem Alike.listDocuments_eq (h : Alike tenant s t) (range : IdRange) :
    t.listDocuments tenant range = s.listDocuments tenant range := by
  unfold listDocuments ifStored Store.documents
  rw [h.storeOutages, h.partition]

/-- Writing a document of the tenant is answered alike, and keeps both sides in step. -/
theorem InStep.putDocument (h : InStep tenant origin origin' s t) (d : Document) :
    Matches tenant origin origin' (s.putDocument tenant d) (t.putDocument tenant d) := by
  have hrevision : t.store.revision tenant d.id = s.store.revision tenant d.id := by
    rw [Store.revision, Store.revision, h.partition]
  have houtage : t.storeOutages.lookup .put = s.storeOutages.lookup .put := by rw [h.storeOutages]
  unfold Services.putDocument ifStored
  rw [houtage]
  cases s.storeOutages.lookup .put with
  | some message => exact ⟨rfl, h⟩
  | none =>
    refine ⟨?_, { h with partition := ?_ }⟩
    · simp only [Store.put, hrevision]
    · simp only [Store.put, Store.partition, PerTenant.get_set_same]
      rw [hrevision]
      exact congrArg _ h.partition

/-- Removing a document of the tenant is answered alike, and keeps both sides in step. -/
theorem InStep.removeDocument (h : InStep tenant origin origin' s t) (id : String) :
    Matches tenant origin origin' (s.removeDocument tenant id) (t.removeDocument tenant id) := by
  have hget : t.store.get? tenant id = s.store.get? tenant id := by
    rw [Store.get?, Store.get?, h.partition]
  have houtage : t.storeOutages.lookup .remove = s.storeOutages.lookup .remove := by
    rw [h.storeOutages]
  unfold Services.removeDocument ifStored Store.remove?
  rw [houtage, hget]
  cases s.storeOutages.lookup .remove with
  | some message => exact ⟨rfl, h⟩
  | none =>
    cases s.store.get? tenant id with
    | none => exact ⟨rfl, h⟩
    | some d =>
      refine ⟨rfl, { h with partition := ?_ }⟩
      simp only [Option.map_some, Store.partition, PerTenant.get_set_same]
      exact congrArg _ h.partition

/-- Sending a webhook is answered alike, and keeps both sides in step. -/
theorem InStep.send (h : InStep tenant origin origin' s t) (request : WebhookRequest) :
    Matches tenant origin origin' (s.send request) (t.send request) := by
  obtain ⟨requests, hs, ht⟩ := h.sent
  refine ⟨?_, { h with answers := ?_, sent := ⟨requests ++ [request], ?_, ?_⟩ }⟩
  · simp only [Services.send, WebhookClient.send, h.answers, h.beyond]
  · simp only [Services.send, WebhookClient.send, h.answers]
  · simp only [Services.send, WebhookClient.send, hs, List.append_assoc]
  · simp only [Services.send, WebhookClient.send, ht, List.append_assoc]

/-- Services that are alike answer alike whether the tenant may run. -/
theorem Alike.checkQuota_eq (h : Alike tenant s t) : t.checkQuota tenant = s.checkQuota tenant := by
  unfold checkQuota Quota.allows
  rw [h.quotaOutages, h.limit, h.usage]

/-- Counting a run of the tenant keeps both sides in step. -/
theorem InStep.countRun (h : InStep tenant origin origin' s t) :
    InStep tenant origin origin' (s.countRun tenant) (t.countRun tenant) := by
  have houtage : t.quotaOutages.lookup .record = s.quotaOutages.lookup .record := by
    rw [h.quotaOutages]
  unfold Services.countRun
  rw [houtage]
  cases s.quotaOutages.lookup .record with
  | some message => exact h
  | none =>
    refine { h with usage := ?_, limit := h.limit }
    simp only [Quota.record, Quota.usage, PerTenant.get_set_same]
    exact congrArg (fun n => min (n + 1) Text.maxWord64) h.usage

/-- Publishing an event keeps both sides in step. -/
theorem InStep.publish (h : InStep tenant origin origin' s t) (e : Event) :
    InStep tenant origin origin' (s.publish e) (t.publish e) := by
  obtain ⟨events, hs, ht⟩ := h.events
  unfold Services.publish
  by_cases hdrops : s.dropsEvents = true
  · rw [if_pos hdrops, if_pos (h.dropsEvents.trans hdrops)]
    exact h
  · rw [if_neg hdrops, if_neg (h.dropsEvents ▸ hdrops)]
    refine { h with events := ⟨events ++ [e], ?_, ?_⟩ }
    · simp only [EventLog.record, hs, List.append_assoc]
    · simp only [EventLog.record, ht, List.append_assoc]

end Services

open Services

variable {tenant : Tenant} {origin origin' s t : Services}

/-! ## Tasks -/

namespace Task

variable {x : Setting}

/-- As much time is left on both sides. -/
theorem remaining?_eq (h : Alike tenant s t) : x.remaining? t = x.remaining? s := by
  unfold Setting.remaining?
  rw [h.clock]

/-- A step is overdue on both sides or on none. -/
theorem overdue?_eq (h : Alike tenant s t) : x.overdue? t = x.overdue? s := by
  unfold Setting.overdue?
  rw [h.clock]

/-- What is made of a request for a document matches if the requests do. -/
theorem rowResult_matches {a b : Except StoreFault Document × Services}
    (h : Matches tenant origin origin' a b) :
    Matches tenant origin origin' (rowResult a) (rowResult b) := by
  obtain ⟨hresult, hservices⟩ := h
  unfold rowResult
  rw [hresult]
  exact ⟨rfl, hservices⟩

/-- A delay has the same outcome on both sides. -/
theorem performDelay_matches (millis : Nat) (h : InStep tenant origin origin' s t) :
    Matches tenant origin origin' (performDelay x millis s) (performDelay x millis t) := by
  unfold performDelay
  dsimp only
  rw [remaining?_eq h.toAlike]
  split
  · split
    · exact ⟨rfl, h.elapse _⟩
    · exact ⟨rfl, h.elapse _⟩
  · exact ⟨rfl, h.elapse _⟩

/-- A script has the same outcome on both sides. -/
theorem performScript_matches (code : String) (h : InStep tenant origin origin' s t) :
    Matches tenant origin origin' (performScript x code s) (performScript x code t) := by
  unfold performScript
  dsimp only
  rw [remaining?_eq h.toAlike]
  split
  · exact ⟨rfl, h.elapse _⟩
  · split
    · rw [overdue?_eq (h.elapse _).toAlike]
      exact ⟨rfl, h.elapse _⟩
    · exact ⟨rfl, h.elapse _⟩

/-- A new row of the tenant has the same outcome on both sides. -/
theorem performCreate_matches (hx : x.tenant = tenant) (table : String) (row : RowFields)
    (h : InStep tenant origin origin' s t) :
    Matches tenant origin origin' (performCreate x table row s) (performCreate x table row t) := by
  obtain ⟨hsuffix, hservices⟩ := h.freshRowSuffix
  unfold performCreate
  dsimp only
  rw [hsuffix, hx]
  exact rowResult_matches (hservices.putDocument _)

/-- An update of the tenant has the same outcome on both sides. -/
theorem performUpdate_matches (hx : x.tenant = tenant) (id : String) (patch : RowFields)
    (h : InStep tenant origin origin' s t) :
    Matches tenant origin origin' (performUpdate x id patch s) (performUpdate x id patch t) := by
  unfold performUpdate
  rw [hx, h.getDocument_eq]
  split
  · exact ⟨rfl, h⟩
  · split
    · exact ⟨rfl, h⟩
    · exact ⟨rfl, h⟩
    · exact rowResult_matches (h.putDocument _)

/-- A removal of the tenant has the same outcome on both sides. -/
theorem performDelete_matches (hx : x.tenant = tenant) (id : String)
    (h : InStep tenant origin origin' s t) :
    Matches tenant origin origin' (performDelete x id s) (performDelete x id t) := by
  unfold performDelete
  rw [hx]
  split
  · exact ⟨rfl, h⟩
  · exact rowResult_matches (h.removeDocument id)

/-- A query of the tenant has the same outcome on both sides. -/
theorem performQuery_matches (hx : x.tenant = tenant) (table : String) (filters : RowFields)
    (limit : Option Nat) (h : InStep tenant origin origin' s t) :
    Matches tenant origin origin' (performQuery x table filters limit s)
      (performQuery x table filters limit t) := by
  unfold performQuery
  rw [hx, h.listDocuments_eq]
  split
  · exact ⟨rfl, h⟩
  · exact ⟨rfl, h⟩

/-- A webhook has the same outcome on both sides. -/
theorem performWebhook_matches (request : WebhookRequest) (h : InStep tenant origin origin' s t) :
    Matches tenant origin origin' (performWebhook request s) (performWebhook request t) := by
  obtain ⟨hanswer, hservices⟩ := h.send request
  unfold performWebhook
  dsimp only
  rw [hanswer]
  split
  · exact ⟨rfl, hservices⟩
  · exact ⟨rfl, hservices⟩

/-- A task done for a tenant has the same result in states that are in step. -/
theorem perform_matches (hx : x.tenant = tenant) (task : Task)
    (h : InStep tenant origin origin' s t) :
    Matches tenant origin origin' (perform x task s) (perform x task t) := by
  cases task with
  | collect | log | filter => exact ⟨rfl, h⟩
  | delay millis => exact performDelay_matches millis h
  | createRow table row => exact performCreate_matches hx table row h
  | updateRow id patch => exact performUpdate_matches hx id patch h
  | deleteRow id => exact performDelete_matches hx id h
  | queryRows table filters limit => exact performQuery_matches hx table filters limit h
  | script code => exact performScript_matches code h
  | webhook request => exact performWebhook_matches request h

end Task

/-! ## Steps -/

namespace Execution

variable (c : Config)

/-- A step with resolved inputs has the same outcome on both sides. -/
theorem performWith_matches {x : Task.Setting} (hx : x.tenant = tenant) (kind : StepKind)
    (inputs : Resolver.ResolvedInputs) (h : InStep tenant origin origin' s t) :
    Matches tenant origin origin' (performWith x kind inputs s) (performWith x kind inputs t) := by
  unfold performWith
  split
  · exact ⟨rfl, h⟩
  · split
    · exact ⟨rfl, h⟩
    · exact Task.perform_matches hx _ h

/-- One execution of a step has the same result in states that are in step. -/
theorem once_matches (step : Step) (context : Context) (h : InStep tenant origin origin' s t) :
    Matches tenant origin origin' (once c tenant step context s)
      (once c tenant step context t) := by
  have hlate := h.elapse (c.stepResolver.timeOfFields context step.inputs)
  unfold once
  dsimp only
  rw [h.clock, Task.overdue?_eq hlate.toAlike]
  split
  · exact ⟨rfl, hlate⟩
  · obtain ⟨hresult, hservices⟩ := performWith_matches
      (x := setting c tenant context s.clock.elapsed) rfl step.kind
      (c.stepResolver.resolveInputs context step.inputs) hlate
    refine ⟨?_, hservices⟩
    rw [hresult]

/-- Two ways of making progress have the same result, end in the same context and leave states in
step. -/
def ProgressMatches {α : Type} (tenant : Tenant) (origin origin' : Services)
    (a b : α × Progress) : Prop :=
  b.1 = a.1 ∧ b.2.context = a.2.context ∧
    InStep tenant origin origin' a.2.services b.2.services

/-- The iterations of a loop that are left go the same way in states that are in step. -/
theorem iterate_matches (plan : LoopPlan) (index : Nat) (done items : List Json)
    (context : Context) (h : InStep tenant origin origin' s t) :
    ProgressMatches tenant origin origin' (iterate c tenant plan index done items ⟨context, s⟩)
      (iterate c tenant plan index done items ⟨context, t⟩) := by
  -- The induction is on the items that are left; each iteration hands on its services.
  induction items generalizing index done context s t with
  | nil => exact ⟨rfl, rfl, h⟩
  | cons item rest ih =>
    rw [iterate, iterate]
    split
    · exact ⟨rfl, rfl, h⟩
    · have honce := once_matches c plan.step
        (context.withFrame (some ⟨item, index, done, .null⟩)) h
      dsimp only [Progress.withFrame, Progress.withServices, Progress.elapse]
      generalize once c tenant plan.step _ s = first at honce ⊢
      generalize once c tenant plan.step _ t = second at honce ⊢
      obtain ⟨result, s'⟩ := first
      obtain ⟨result', t'⟩ := second
      obtain ⟨hresult, hnext⟩ := honce
      dsimp only at hresult hnext ⊢
      subst hresult
      split
      · exact ⟨rfl, rfl, hnext⟩
      · split
        · exact ih _ _ _ hnext
        · split
          · exact ⟨rfl, rfl, hnext.elapse _⟩
          · exact ih _ _ _ (hnext.elapse _)
          · exact ⟨rfl, rfl, hnext.elapse _⟩

/-- A loop has the same outcome on both sides. -/
theorem looped_matches (step : Step) (loop : Loop) (context : Context)
    (h : InStep tenant origin origin' s t) :
    ProgressMatches tenant origin origin' (looped c tenant step loop ⟨context, s⟩)
      (looped c tenant step loop ⟨context, t⟩) := by
  have hlate := h.elapse (c.resolver.timeOf context loop.input)
  unfold looped
  dsimp only [Progress.elapse, Progress.withServices, Progress.withFrame]
  split
  · exact ⟨rfl, rfl, hlate⟩
  · obtain ⟨hend, hcontext, hservices⟩ := iterate_matches c
      ⟨step, loop.condition?, c.iterations loop.maxIterations⟩ 0 [] _ context hlate
    refine ⟨?_, ?_, hservices⟩
    · rw [hend]
    · rw [hcontext]

/-- A step that is executed once or in a loop has the same outcome on both sides. -/
theorem attempt_matches (step : Step) (context : Context) (h : InStep tenant origin origin' s t) :
    ProgressMatches tenant origin origin' (attempt c tenant step ⟨context, s⟩)
      (attempt c tenant step ⟨context, t⟩) := by
  unfold attempt
  split
  · exact looped_matches c step _ context h
  · obtain ⟨hresult, hservices⟩ := once_matches c step context h
    exact ⟨hresult, rfl, hservices⟩

/-- A step executed for a tenant has the same outcome in states that are in step, and leaves the
same context and states in step. -/
theorem step_matches (step : Step) (context : Context) (h : InStep tenant origin origin' s t) :
    ProgressMatches tenant origin origin' (Execution.step c tenant step ⟨context, s⟩)
      (Execution.step c tenant step ⟨context, t⟩) := by
  obtain ⟨hresult, hcontext, hservices⟩ := attempt_matches c step context h
  refine ⟨?_, hcontext, hservices⟩
  unfold Execution.step
  dsimp only
  rw [hresult, h.now_eq, hservices.now_eq]

end Execution

end Automation
