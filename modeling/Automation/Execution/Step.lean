import Automation.Execution.Loop
/-!
# Executing steps

`Execution.step` executes a step, in a loop or once, and always has an outcome: a failure becomes
outputs without success.
-/

namespace Automation

/-- What came of a step. The error is the text of a failure or the one in the outputs. -/
structure StepOutcome where
  id : String
  kind : StepKind
  outputs : Json
  error : Option String
  startedAt : Moment
  finishedAt : Moment
  deriving Inhabited

namespace StepOutcome

/-- The step has succeeded. -/
def success (o : StepOutcome) : Bool :=
  Outputs.succeeded o.outputs

/-- The milliseconds that the step took. -/
def millis (o : StepOutcome) : Int :=
  o.finishedAt.millisSince o.startedAt

/-- The result of the step in a run, its failure halting the run or not. -/
def result (o : StepOutcome) (halts : Bool) : StepResult where
  id := o.id
  kind := o.kind
  status := .ofOutcome o.success halts
  outputs := o.outputs
  error := o.error
  startedAt := o.startedAt
  finishedAt := o.finishedAt

end StepOutcome

namespace Execution

/-- Executes a step in a loop or once. -/
def attempt (c : Config) (tenant : Tenant) (step : Step) (p : Progress) :
    Except StepFault Json × Progress :=
  match step.loop with
  | some loop => looped c tenant step loop p
  | none =>
    let (result, s) := once c tenant step p.context p.services
    (result, p.withServices s)

/-- Executes a step. -/
def step (c : Config) (tenant : Tenant) (step : Step) (p : Progress) : StepOutcome × Progress :=
  let startedAt := p.services.now
  let (result, p) := attempt c tenant step p
  let (outputs, error) := Outputs.reported result
  (⟨step.id, step.kind, outputs, error, startedAt, p.services.now⟩, p)

end Execution

end Automation
