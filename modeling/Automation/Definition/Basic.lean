import Automation.Step.Kind
import Automation.Tenant
/-!
# Definitions

An automation belongs to one tenant. It has a trigger and a list of steps, which run in order. A
step has inputs, whose texts may hold templates, and possibly a loop around it.
-/

namespace Automation

/-- The kind of event that starts an automation. -/
inductive TriggerEvent where
  | rowCreated
  | rowUpdated
  | rowDeleted
  | webhook
  | cron
  | appAction
  deriving DecidableEq, Repr, Inhabited

namespace TriggerEvent

/-- The events in the order in which messages list them. -/
def all : List TriggerEvent :=
  [.rowCreated, .rowUpdated, .rowDeleted, .webhook, .cron, .appAction]

/-- The name of an event outside the program. -/
def wireName : TriggerEvent → String
  | .rowCreated => "ROW_CREATED"
  | .rowUpdated => "ROW_UPDATED"
  | .rowDeleted => "ROW_DELETED"
  | .webhook => "WEBHOOK"
  | .cron => "CRON"
  | .appAction => "APP_ACTION"

/-- The event that a tree names. -/
def ofTree (t : Tree) : Except DecodeFault TriggerEvent :=
  t.asVariant (all.map fun e => (e.wireName, e))

end TriggerEvent

/-- What starts an automation: an event, and values that narrow it down. -/
structure Trigger where
  event : TriggerEvent
  filter : Entries Json := ∅
  deriving Repr, Inhabited

/-- How a step is repeated: over the items of the input, which are cut out of a text at the
separator, at most so many times, and until the condition is true, which is a failure. -/
structure Loop where
  input : Json
  separator : Option String := none
  maxIterations : Option Nat := none
  failureCondition : Option String := none
  deriving Repr, Inhabited

/-- A step. Its failure halts the run if `haltOnFailure` says so or, where that is not said, if the
kind of the step does. -/
structure Step where
  id : String
  kind : StepKind
  inputs : Entries Json := ∅
  loop : Option Loop := none
  haltOnFailure : Option Bool := none
  deriving Repr, Inhabited

/-- An automation. -/
structure Definition where
  id : String
  tenant : Tenant
  name : Option String := none
  trigger : Trigger
  steps : List Step := []
  deriving Repr, Inhabited

namespace Definition

/-- The first step of a name. -/
def step? (d : Definition) (name : String) : Option Step :=
  d.steps.find? (·.id == name)

/-- The position of the first step of a name, counted from one. -/
def position? (d : Definition) (name : String) : Option Nat :=
  (d.steps.findIdx? (·.id == name)).map (· + 1)

end Definition

end Automation
