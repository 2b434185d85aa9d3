import Automation.Run.Result
/-!
# Events

What happens to runs is published as events. `EventLog` keeps the events of all runs; an
`EventChannel` passes them on to one receiver, which may go away.
-/

namespace Automation

/-- The kind of an event. -/
inductive EventKind where
  | runCreated
  | stepCompleted
  | runFinished
  | runRejected
  deriving DecidableEq, Repr, Inhabited

namespace EventKind

/-- The kinds in the order in which messages list them. -/
def all : List EventKind :=
  [.runCreated, .stepCompleted, .runFinished, .runRejected]

/-- The name of a kind outside the program. -/
def wireName : EventKind → String
  | .runCreated => "RUN_CREATED"
  | .stepCompleted => "STEP_COMPLETED"
  | .runFinished => "RUN_FINISHED"
  | .runRejected => "RUN_REJECTED"

/-- The kind that a tree names. -/
def ofTree (t : Tree) : Except DecodeFault EventKind :=
  t.asVariant (all.map fun k => (k.wireName, k))

end EventKind

/-- An event. The properties are sorted by name. -/
structure Event where
  kind : EventKind
  tenant : Tenant
  automation : String
  runId : String
  properties : List (String × Json) := []
  timestamp : Moment
  deriving Repr, Inhabited

namespace Event

/-- The event with one more property. -/
def withProperty (e : Event) (name : String) (value : Json) : Event :=
  { e with properties := Fields.insert name value e.properties }

/-- The tree of an event. -/
def toTree (e : Event) : Tree :=
  .mapping
    [("kind", .string e.kind.wireName), ("tenant_id", .string e.tenant.name),
      ("automation_id", .string e.automation), ("run_id", .string e.runId),
      ("properties", Tree.ofEntries e.properties), ("timestamp", e.timestamp.toTree)]

/-- The event that a tree stands for. -/
def ofTree (t : Tree) : Except DecodeFault Event := do
  let r ← t.record "LifecycleEvent"
    [.required "kind" EventKind.ofTree, .required "tenant_id" Tenant.ofTree,
      .required "automation_id" Tree.asString, .required "run_id" Tree.asString,
      .optional_ "properties" (Tree.asSorted Tree.asJson), .required "timestamp" Tree.asMoment]
  return {
    kind := ← r.get "kind" EventKind.ofTree
    tenant := ← r.get "tenant_id" Tenant.ofTree
    automation := ← r.get "automation_id" Tree.asString
    runId := ← r.get "run_id" Tree.asString
    properties := ← r.getD "properties" (Tree.asSorted Tree.asJson) []
    timestamp := ← r.get "timestamp" Tree.asMoment }

end Event

/-- The events that have been published, in order. -/
structure EventLog where
  events : List Event := []
  deriving Repr, Inhabited

namespace EventLog

/-- The log with one more event. -/
def record (l : EventLog) (e : Event) : EventLog :=
  ⟨l.events ++ [e]⟩

/-- The kinds of the events of a run. -/
def kindsOf (l : EventLog) (runId : String) : List EventKind :=
  (l.events.filter (·.runId == runId)).map (·.kind)

end EventLog

/-- Why an event cannot be published. -/
inductive PublishFault where
  | channelClosed
  deriving DecidableEq, Repr

/-- The wording of a fault. -/
def PublishFault.message : PublishFault → String
  | .channelClosed => "event channel closed"

/-- A channel with its events on the way. -/
structure EventChannel where
  waiting : List Event := []
  isOpen : Bool := true
  deriving Repr, Inhabited

namespace EventChannel

/-- Puts an event on its way. -/
def publish (c : EventChannel) (e : Event) : Except PublishFault EventChannel :=
  if c.isOpen then .ok { c with waiting := c.waiting ++ [e] } else .error .channelClosed

/-- Takes the next event. -/
def receive? (c : EventChannel) : Option Event × EventChannel :=
  match c.waiting with
  | [] => (none, c)
  | e :: rest => (some e, { c with waiting := rest })

/-- The receiver goes away, and with it the events on the way. -/
def close (_ : EventChannel) : EventChannel :=
  ⟨[], false⟩

end EventChannel

end Automation
