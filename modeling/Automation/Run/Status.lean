import Automation.Tree.Decode
/-!
# States of runs and steps

A run waits, runs and ends in one of three ways. `RunStatus.mayBecome` tells which changes of state
there are. A step of a run ends in success, in failure, or in a failure that stops the run.
-/

namespace Automation

/-- The state of a run. -/
inductive RunStatus where
  | pending
  | running
  | success
  | failed
  | stopped
  deriving DecidableEq, Repr, Inhabited

namespace RunStatus

/-- The states in the order in which messages list them. -/
def all : List RunStatus :=
  [.pending, .running, .success, .failed, .stopped]

/-- The name of a state outside the program. -/
def wireName : RunStatus → String
  | .pending => "PENDING"
  | .running => "RUNNING"
  | .success => "SUCCESS"
  | .failed => "FAILED"
  | .stopped => "STOPPED"

/-- The name of a state in the wording of faults. -/
def title : RunStatus → String
  | .pending => "Pending"
  | .running => "Running"
  | .success => "Success"
  | .failed => "Failed"
  | .stopped => "Stopped"

/-- The state that a tree names. -/
def ofTree (t : Tree) : Except DecodeFault RunStatus :=
  t.asVariant (all.map fun s => (s.wireName, s))

/-- The run is over. -/
def isTerminal : RunStatus → Bool
  | .success | .failed | .stopped => true
  | .pending | .running => false

/-- A run may go from one state to another: it starts or is refused, and once it runs it ends. -/
def mayBecome : RunStatus → RunStatus → Bool
  | .pending, .running => true
  | .pending, .failed => true
  | .running, next => next.isTerminal
  | _, _ => false

end RunStatus

/-- How a step of a run ended. -/
inductive StepStatus where
  | success
  | failed
  | stopped
  deriving DecidableEq, Repr, Inhabited

namespace StepStatus

/-- The ends in the order in which messages list them. -/
def all : List StepStatus :=
  [.success, .failed, .stopped]

/-- The name of an end outside the program. -/
def wireName : StepStatus → String
  | .success => "SUCCESS"
  | .failed => "FAILED"
  | .stopped => "STOPPED"

/-- The end that a tree names. -/
def ofTree (t : Tree) : Except DecodeFault StepStatus :=
  t.asVariant (all.map fun s => (s.wireName, s))

/-- The end of a step that has succeeded or not, and whose failure halts the run or not. -/
def ofOutcome (succeeded halts : Bool) : StepStatus :=
  if succeeded then .success else if halts then .stopped else .failed

end StepStatus

end Automation
