import Automation.Resolve
import Automation.Store
/-!
# Failures of steps

A step that cannot do its work fails with one of these. The failure becomes part of the step's
outputs and never goes beyond the step.
-/

namespace Automation

open Text

/-- Why a step fails. -/
inductive StepFault where
  | missingInput (field : String)
  | unresolvedInput (field : String) (fault : BindingFault)
  | invalidInputs (kind : StepKind) (fault : DecodeFault)
  | invalidLoopInput (kindName : String)
  | timedOut (millis : Nat)
  | store (fault : StoreFault)
  | script (failure : Script.Failure)
  | webhook (message : String)
  | notARow (id : String)
  deriving DecidableEq, Repr

/-- The wording of a failure. -/
def StepFault.message : StepFault → String
  | .missingInput field => "required input '" ++ field ++ "' is missing"
  | .unresolvedInput field fault =>
    "required input '" ++ field ++ "' could not be resolved: " ++ fault.message
  | .invalidInputs kind fault => "invalid inputs for " ++ kind.wireName ++ ": " ++ fault.message
  | .invalidLoopInput kindName =>
    "loop input must resolve to an array or a delimited string, got " ++ kindName
  | .timedOut millis => "step timed out after " ++ String.ofList (digits millis) ++ "ms"
  | .store fault => fault.message
  | .script failure => failure.message
  | .webhook message => "webhook request failed: " ++ message
  | .notARow id => "'" ++ id ++ "' is not a row identifier"

end Automation
