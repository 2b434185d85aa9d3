import Automation.Json.Display
import Automation.Step.Fault
/-!
# Outputs

The outputs of a step are an object with a flag for success. `Outputs.normalize` makes any value
one, and `Outputs.ofFault` is what a failed step leaves.
-/

namespace Automation.Outputs

/-- The name of the flag. -/
def flag : String := "success"

/-- The flag of an object's fields: a value that is no boolean counts by its truth, and an absent
one as success. -/
def successOf (fields : List (String × Json)) : Bool :=
  match fields.lookup flag with
  | some (.bool b) => b
  | some v => v.isTruthy
  | none => true

/-- An object with a boolean flag; another value becomes the field of a new object. -/
def normalize : Json → Json
  | .object fields => .object (Fields.insert flag (.bool (successOf fields)) fields)
  | v => .object [(flag, .bool true), ("value", v)]

/-- The outputs of a step that has failed. -/
def ofFault (fault : StepFault) : Json :=
  .object [("error", .string fault.message), (flag, .bool false)]

/-- What an execution leaves: its outputs, or those of its failure. -/
def ofResult : Except StepFault Json → Json
  | .ok outputs => outputs
  | .error fault => ofFault fault

/-- The outputs report success. -/
def succeeded (outputs : Json) : Bool :=
  ((outputs.field? flag).bind Json.asBool?).getD false

/-- The error in outputs that report no success. -/
def error? (outputs : Json) : Option String :=
  if succeeded outputs then none else (outputs.field? "error").bind Json.asString?

/-- What is reported of an execution: its outputs and the error in them, or the outputs of its
failure and the wording of that. -/
def reported : Except StepFault Json → Json × Option String
  | .ok outputs => (outputs, error? outputs)
  | .error fault => (ofFault fault, some fault.message)

end Automation.Outputs
