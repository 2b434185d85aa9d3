import Mathlib.Logic.Relation
import Automation.Proofs.Execution.Iteration
import Automation.Proofs.Store
import Automation.Proofs.Text.Search

/-!
# The requests of a step

What a step does to the services is a sequence of requests, whatever the step is, whether it is
looped and how it ends (`Execution.step_requests`): time passes, the suffix of a row is taken, a
webhook is sent, or a document of the tenant is written or removed, and then its id is that of a row
(`Services.Request`). What all these requests keep is kept by every step (`Execution.step_keeps`).

Three kinds of tasks change rows. All the others make no more than one request, which reaches no
document (`Task.perform_quiet`).
-/

namespace Automation

open Text

/-! ## Ids of rows -/

namespace Row

/-- The ids of the rows of a table are ids of rows, whatever the table is called. -/
theorem isId_idOf (table suffix : String) : isId (idOf table suffix) = true := by
  have hchars : (idOf table suffix).toList =
      idStart.toList ++ (table.toList ++ ("_".toList ++ suffix.toList)) := by
    simp only [idOf, tableStart, String.toList_append, List.append_assoc]
  rw [isId, startsWith, hchars, stripStart?_append]
  rfl

end Row

/-! ## Requests -/

namespace Services

/-- One request that a step of a tenant makes, with the services before and after it. Documents are
written and removed only under the ids of rows. -/
inductive Request (tenant : Tenant) : Services → Services → Prop
  | elapse (s : Services) (millis : Nat) : Request tenant s (s.elapse millis)
  | suffix (s : Services) : Request tenant s s.freshRowSuffix.2
  | send (s : Services) (request : WebhookRequest) : Request tenant s (s.send request).2
  | put (s : Services) {d : Document} (h : Row.isId d.id = true) :
      Request tenant s (s.putDocument tenant d).2
  | remove (s : Services) {id : String} (h : Row.isId id = true) :
      Request tenant s (s.removeDocument tenant id).2

/-- Some requests of a tenant, one after the other. -/
abbrev Requests (tenant : Tenant) : Services → Services → Prop :=
  Relation.ReflTransGen (Request tenant)

/-- The property is kept by every request of a tenant. -/
def KeptByRequests (tenant : Tenant) (P : Services → Prop) : Prop :=
  ∀ s t, Request tenant s t → P s → P t

/-- What every request keeps is kept by all of them together. -/
theorem Requests.keeps {tenant : Tenant} {P : Services → Prop} (hkept : KeptByRequests tenant P)
    {s t : Services} (h : Requests tenant s t) (hs : P s) : P t := by
  induction h with
  | refl => exact hs
  | tail _ hlast ih => exact hkept _ _ hlast ih

/-- Requests take suffixes of rows from one source and give none back. -/
theorem Requests.suffixes {tenant : Tenant} {s t : Services} (h : Requests tenant s t) :
    t.rowSuffix = s.rowSuffix ∧ s.rowsCreated ≤ t.rowsCreated := by
  refine h.keeps (P := fun t => t.rowSuffix = s.rowSuffix ∧ s.rowsCreated ≤ t.rowsCreated) ?_
    ⟨rfl, Nat.le_refl _⟩
  rintro t u hrequest ⟨hsuffix, hrows⟩
  cases hrequest with
  | elapse | send => exact ⟨hsuffix, hrows⟩
  | suffix => exact ⟨hsuffix, Nat.le_succ_of_le hrows⟩
  | put => rcases t.putDocument_cases tenant _ with ⟨fault, hput⟩ | hput <;> rw [hput] <;>
      exact ⟨hsuffix, hrows⟩
  | remove =>
    rcases t.removeDocument_cases tenant _ with ⟨fault, hremove⟩ | ⟨d, hremove⟩ <;> rw [hremove] <;>
      exact ⟨hsuffix, hrows⟩

/-- What the tasks that change no rows do to the services: nothing, or a request that reaches no
document. -/
inductive Quiet : Services → Services → Prop
  | nothing (s : Services) : Quiet s s
  | elapse (s : Services) (millis : Nat) : Quiet s (s.elapse millis)
  | send (s : Services) (request : WebhookRequest) : Quiet s (s.send request).2

/-- What is quiet is a request of any tenant, or none. -/
theorem Quiet.requests {s t : Services} (h : Quiet s t) (tenant : Tenant) :
    Requests tenant s t := by
  cases h with
  | nothing => exact .refl
  | elapse => exact .single (.elapse s _)
  | send => exact .single (.send s _)

/-- The documents, and the suffixes of the rows that are still to be created, are the same. -/
structure SameRows (s t : Services) : Prop where
  store : t.store = s.store
  rowSuffix : t.rowSuffix = s.rowSuffix
  rowsCreated : t.rowsCreated = s.rowsCreated

/-- What is quiet leaves rows alone. -/
theorem Quiet.sameRows {s t : Services} (h : Quiet s t) : SameRows s t := by
  cases h with
  | nothing | elapse | send => exact ⟨rfl, rfl, rfl⟩

/-- A document that has been found has the id under which it was looked up. -/
theorem id_of_getDocument {s : Services} {t : Tenant} {id : String} {d : Document}
    (h : s.getDocument t id = .ok (some d)) : d.id = id := by
  unfold getDocument ifStored at h
  split at h
  · cases h
  · obtain ⟨revision, -, rfl⟩ := Option.map_eq_some_iff.1 (Except.ok.inj h)
    rfl

end Services

open Services

/-! ## Tasks -/

namespace Task

variable (x : Setting)

/-- The task is one of those that may change rows. -/
def changesRows : Task → Bool
  | .createRow .. | .updateRow .. | .deleteRow .. => true
  | _ => false

/-- A delay lets time pass. -/
theorem performDelay_quiet (millis : Nat) (s : Services) :
    Quiet s (performDelay x millis s).2 := by
  unfold performDelay
  dsimp only
  split
  · split
    · exact .elapse s _
    · exact .elapse s _
  · exact .elapse s _

/-- A script lets time pass. -/
theorem performScript_quiet (code : String) (s : Services) :
    Quiet s (performScript x code s).2 := by
  unfold performScript
  dsimp only
  split
  · exact .elapse s _
  · split
    · exact .elapse s _
    · exact .elapse s _

/-- A query does nothing. -/
theorem performQuery_quiet (table : String) (filters : RowFields) (limit : Option Nat)
    (s : Services) : Quiet s (performQuery x table filters limit s).2 := by
  unfold performQuery
  split
  · exact .nothing s
  · exact .nothing s

/-- A webhook is sent, whatever the answer is. -/
theorem performWebhook_quiet (request : WebhookRequest) (s : Services) :
    Quiet s (performWebhook request s).2 := by
  unfold performWebhook
  dsimp only
  split
  · exact .send s request
  · exact .send s request

/-- A task that does not change rows is quiet. -/
theorem perform_quiet {task : Task} (h : task.changesRows = false) (s : Services) :
    Quiet s (perform x task s).2 := by
  cases task with
  | collect | log | filter => exact .nothing s
  | delay millis => exact performDelay_quiet x millis s
  | createRow | updateRow | deleteRow => cases h
  | queryRows table filters limit => exact performQuery_quiet x table filters limit s
  | script code => exact performScript_quiet x code s
  | webhook request => exact performWebhook_quiet request s

/-- A new row is written under an id with the suffix that has just been taken. -/
theorem performCreate_requests (table : String) (row : RowFields) (s : Services) :
    Requests x.tenant s (performCreate x table row s).2 :=
  .tail (.single (.suffix s)) (.put _ (Row.isId_idOf table _))

/-- A row that is changed is written under the id that was asked for. -/
theorem performUpdate_requests (id : String) (patch : RowFields) (s : Services) :
    Requests x.tenant s (performUpdate x id patch s).2 := by
  unfold performUpdate
  cases hrow : Row.isId id with
  | false => exact .refl
  | true =>
    cases hget : s.getDocument x.tenant id with
    | error fault => exact .refl
    | ok found =>
      cases found with
      | none => exact .refl
      | some d =>
        have hid : Row.isId (Row.patchedDocument d patch).id = true := by
          rw [← hrow, ← id_of_getDocument hget]
          rfl
        exact .single (.put s hid)

/-- A row is removed under the id that was asked for. -/
theorem performDelete_requests (id : String) (s : Services) :
    Requests x.tenant s (performDelete x id s).2 := by
  unfold performDelete
  cases hrow : Row.isId id with
  | false => exact .refl
  | true => exact .single (.remove s hrow)

/-- What a task does is a sequence of requests. -/
theorem perform_requests (task : Task) (s : Services) :
    Requests x.tenant s (perform x task s).2 := by
  cases task with
  | createRow table row => exact performCreate_requests x table row s
  | updateRow id patch => exact performUpdate_requests x id patch s
  | deleteRow id => exact performDelete_requests x id s
  | _ => exact (perform_quiet x rfl s).requests x.tenant

end Task

/-! ## Steps -/

namespace Execution

variable (c : Config) (tenant : Tenant)

/-- A step with resolved inputs makes requests only. -/
theorem performWith_requests (x : Task.Setting) (kind : StepKind)
    (inputs : Resolver.ResolvedInputs) (s : Services) :
    Requests x.tenant s (performWith x kind inputs s).2 := by
  unfold performWith
  split
  · exact .refl
  · split
    · exact .refl
    · exact Task.perform_requests x _ s

/-- One execution of a step takes the time of its inputs and then does what its task does. -/
theorem once_requests (step : Step) (context : Context) (s : Services) :
    Requests tenant s (once c tenant step context s).2 := by
  unfold once
  dsimp only
  split
  · exact .single (.elapse s _)
  · exact .trans (.single (.elapse s _))
      (performWith_requests (setting c tenant context s.clock.elapsed) _ _ _)

/-- Iterations of a loop make the requests of their steps, and take the time of their conditions. -/
theorem stateAt_requests (plan : LoopPlan) (context : Context) (items : List Json)
    (start : List Json × Services) (i : Nat) :
    Requests tenant start.2 (stateAt c tenant plan context items start i).2 := by
  unfold stateAt
  induction items.take i generalizing start with
  | nil => exact .refl
  | cons item rest ih =>
    have hfirst : Requests tenant start.2 (advance c tenant plan context start item).2 :=
      (once_requests c tenant plan.step _ _).tail (.elapse _ _)
    exact hfirst.trans (ih (advance c tenant plan context start item))

/-- A loop makes requests only. -/
theorem looped_requests (step : Step) (loop : Loop) (p : Progress) :
    Requests tenant p.services (looped c tenant step loop p).2.services := by
  cases h : loopItems c p.context loop with
  | error fault =>
    rw [looped_of_error c tenant h]
    exact .single (.elapse _ _)
  | ok items =>
    obtain ⟨m, e, -, he⟩ := looped_of_items c tenant step h
    rw [he]
    exact .trans (.single (.elapse _ _)) (stateAt_requests c tenant _ _ _ ([], _) m)

/-- What a step does to the services is a sequence of requests. -/
theorem step_requests (step : Step) (p : Progress) :
    Requests tenant p.services (Execution.step c tenant step p).2.services := by
  rw [step_progress]
  unfold attempt
  split
  · exact looped_requests c tenant step _ p
  · exact once_requests c tenant step p.context p.services

/-- What every request keeps is kept by every step. -/
theorem step_keeps {P : Services → Prop} (hkept : KeptByRequests tenant P) (step : Step)
    {p : Progress} (h : P p.services) : P (Execution.step c tenant step p).2.services :=
  (step_requests c tenant step p).keeps hkept h

end Execution

end Automation
