import Automation.Step.Schema
/-!
# The catalogue of step kinds

A descriptor says how a kind is presented and how its steps take part in runs. A registry is the
list of the kinds that may be used, and its catalogue lists them with descriptors and schemas.
-/

namespace Automation

/-- The broad sort of a step: it acts on something outside, or it is about the run itself. -/
inductive StepFamily where
  | action
  | logic
  deriving DecidableEq, Repr

/-- The name of a family outside the program. -/
def StepFamily.wireName : StepFamily → String
  | .action => "ACTION"
  | .logic => "LOGIC"

/-- What is known of all steps of a kind: how they are presented, whether they are internal to the
program, whether they may be looped, and whether their failure halts the run unless a step says
otherwise. -/
structure StepDescriptor where
  name : String
  description : String
  family : StepFamily
  isInternal : Bool
  canLoop : Bool
  haltsOnFailure : Bool
  deriving DecidableEq, Repr

namespace StepDescriptor

/-- An action, which may be looped and does not halt a run. -/
def action (name description : String) : StepDescriptor :=
  ⟨name, description, .action, false, true, false⟩

end StepDescriptor

namespace StepKind

/-- The descriptor of a kind. -/
def descriptor : StepKind → StepDescriptor
  | .collect =>
    ⟨"Collect Data", "Collects a value so it can be returned from the run", .logic, true, true,
      false⟩
  | .serverLog => .action "Backend log" "Logs a message on the server"
  | .filter =>
    ⟨"Condition", "Stops the run unless the condition holds", .logic, true, false, true⟩
  | .delay => ⟨"Delay", "Waits before continuing with the next step", .logic, true, false, false⟩
  | .createRow => .action "Create Row" "Adds a row to a table"
  | .updateRow => .action "Update Row" "Updates fields of an existing row"
  | .deleteRow => .action "Delete Row" "Deletes a row"
  | .queryRows => .action "Query rows" "Lists rows of a table matching simple equality filters"
  | .executeScript => .action "Script" "Runs a sandboxed script against the run context"
  | .outgoingWebhook => .action "Outgoing webhook" "Sends an HTTP request to an external endpoint"

/-- The descriptor and the schemas of a kind as ordered entries. -/
def catalogueEntry (k : StepKind) : List (String × Json) :=
  let d := k.descriptor
  [("step_id", .string k.wireName), ("name", .string d.name),
    ("description", .string d.description), ("family", .string d.family.wireName),
    ("internal", .bool d.isInternal), ("can_loop", .bool d.canLoop),
    ("halts_on_failure", .bool d.haltsOnFailure),
    ("schema", .object
      [("inputs", k.inputSchema.toJson), ("outputs", k.outputSchema.toJson)])]

end StepKind

/-- The kinds that may be used, each once, in the order of their registration. -/
structure Registry where
  kinds : List StepKind
  deriving DecidableEq, Repr, Inhabited

namespace Registry

/-- No kind may be used. -/
def empty : Registry := ⟨[]⟩

/-- Every kind may be used. -/
def all : Registry := ⟨StepKind.all⟩

/-- The registry with one more kind. -/
def register (r : Registry) (k : StepKind) : Registry :=
  if k ∈ r.kinds then r else ⟨r.kinds ++ [k]⟩

/-- The registry of some kinds. -/
def ofList (kinds : List StepKind) : Registry :=
  kinds.foldl register empty

/-- The kind may be used. -/
def includes (r : Registry) (k : StepKind) : Bool :=
  r.kinds.contains k

/-- The entries of all kinds, ordered. -/
def catalogue (r : Registry) : List (List (String × Json)) :=
  r.kinds.map StepKind.catalogueEntry

end Registry

end Automation
