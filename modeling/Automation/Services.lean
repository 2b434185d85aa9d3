import Automation.Quota
import Automation.RowId
import Automation.Run.Event
import Automation.Store
import Automation.Webhook
/-!
# Services

Runs work with a store, a quota, a log of events, a webhook client and a clock, and they take fresh
ids for runs from a counter and those for rows from a source of suffixes. `Services` holds the state
of all of these; a run takes it from one state to the next. Single kinds of requests may be out of
service, and then fail with a message.
-/

namespace Automation

open Text

/-- A clock: the moment at which it was started, and the milliseconds since then. -/
structure Clock where
  start : Moment
  elapsed : Nat := 0
  deriving DecidableEq, Repr, Inhabited

/-- The moment that a clock shows. -/
def Clock.now (c : Clock) : Moment :=
  c.start.later c.elapsed

/-- The kinds of requests to the store. -/
inductive StoreRequest where
  | get
  | put
  | remove
  | list
  deriving DecidableEq, Repr, Inhabited

/-- The kinds of requests to the quota. -/
inductive QuotaRequest where
  | check
  | record
  deriving DecidableEq, Repr, Inhabited

/-- The state of everything that runs work with. The rows that are created get the suffixes with the
numbers 1, 2 and so on. -/
structure Services where
  store : Store := {}
  storeOutages : List (StoreRequest × String) := []
  quota : Quota := {}
  quotaOutages : List (QuotaRequest × String) := []
  log : EventLog := {}
  dropsEvents : Bool := false
  webhooks : WebhookClient := {}
  clock : Clock
  runsStarted : Nat := 0
  rowSuffix : Nat → String := Row.countedSuffix
  rowsCreated : Nat := 0
  deriving Inhabited

namespace Services

/-- The moment that the clock shows. -/
def now (s : Services) : Moment :=
  s.clock.now

/-- Time passes. -/
def elapse (s : Services) (millis : Nat) : Services :=
  { s with clock := { s.clock with elapsed := s.clock.elapsed + millis } }

/-- The id of the next run. -/
def freshRunId (s : Services) : String × Services :=
  ("run-" ++ String.ofList (digits (s.runsStarted + 1)),
    { s with runsStarted := s.runsStarted + 1 })

/-- The suffix of the next row. -/
def freshRowSuffix (s : Services) : String × Services :=
  (s.rowSuffix (s.rowsCreated + 1), { s with rowsCreated := s.rowsCreated + 1 })

/-- The result of a request to the store if that kind is in service. -/
def ifStored {α : Type} (s : Services) (request : StoreRequest) (result : Except StoreFault α) :
    Except StoreFault α :=
  match s.storeOutages.lookup request with
  | some message => .error (.outage message)
  | none => result

/-- Looks a document up. -/
def getDocument (s : Services) (t : Tenant) (id : String) : Except StoreFault (Option Document) :=
  s.ifStored .get (.ok (s.store.get? t id))

/-- Lists the documents of a range. -/
def listDocuments (s : Services) (t : Tenant) (range : IdRange) :
    Except StoreFault (List Document) :=
  s.ifStored .list (.ok (s.store.documents t range))

/-- Writes a document. -/
def putDocument (s : Services) (t : Tenant) (d : Document) :
    Except StoreFault Document × Services :=
  match s.ifStored .put (.ok (s.store.put t d)) with
  | .ok (written, store) => (.ok written, { s with store := store })
  | .error fault => (.error fault, s)

/-- Removes a document. -/
def removeDocument (s : Services) (t : Tenant) (id : String) :
    Except StoreFault Document × Services :=
  let removed := match s.store.remove? t id with
    | some removed => .ok removed
    | none => .error (.notFound id)
  match s.ifStored .remove removed with
  | .ok (document, store) => (.ok document, { s with store := store })
  | .error fault => (.error fault, s)

/-- Sends a webhook. -/
def send (s : Services) (request : WebhookRequest) : WebhookAnswer × Services :=
  let (answer, webhooks) := s.webhooks.send request
  (answer, { s with webhooks := webhooks })

/-- Asks whether a tenant may start one more run. -/
def checkQuota (s : Services) (t : Tenant) : Except QuotaFault Bool :=
  match s.quotaOutages.lookup .check with
  | some message => .error (.outage message)
  | none => .ok (s.quota.allows t)

/-- Counts a run of a tenant, if the quota is in service. -/
def countRun (s : Services) (t : Tenant) : Services :=
  match s.quotaOutages.lookup .record with
  | some _ => s
  | none => { s with quota := s.quota.record t 1 }

/-- Publishes an event, unless events are dropped. -/
def publish (s : Services) (e : Event) : Services :=
  if s.dropsEvents then s else { s with log := s.log.record e }

end Services

end Automation
