import Automation.Script.Machine
import Automation.Script.Simplify
/-!
# Scripts over JSON

`Script.run` gives a script a JSON value under the name `context` and takes its result back as JSON.
Besides the answer it tells how much time the run took.
-/

namespace Automation.Script

open Text

/-- The limits that a configuration sets for scripts. -/
structure Limits where
  maxOperations : Nat := 10000000
  maxStringSize : Nat := 4194304
  maxArraySize : Nat := 100000
  maxMapSize : Nat := 100000
  deriving DecidableEq, Repr, Inhabited

/-- Why a script has no answer. -/
inductive Failure where
  | timeout (millis : Nat)
  | limit (message : String)
  | evaluation (message : String)
  | conversion (type : String)
  deriving DecidableEq, Repr

/-- The wording of a failure. -/
def Failure.message : Failure → String
  | .timeout millis =>
    "script exceeded its " ++ String.ofList (digits millis) ++ "ms time limit"
  | .limit text => "script exceeded a sandbox limit: " ++ text
  | .evaluation text => "script evaluation failed: " ++ text
  | .conversion type =>
    "script value conversion failed: Output type incorrect: " ++ type ++
      " (expecting serde_json::value::Value)"

/-- The script ran out of time. -/
def Failure.isTimeout : Failure → Bool
  | .timeout _ => true
  | _ => false

/-- The answer of a script and the milliseconds it took. -/
structure Outcome where
  answer : Except Failure Json
  elapsed : Nat

/-- The budget of a run of some milliseconds. -/
def Limits.budget (l : Limits) (millis : Nat) : Budget :=
  ⟨l.maxOperations, millis, ⟨l.maxStringSize, l.maxArraySize, l.maxMapSize⟩⟩

/-- The answer to a value. -/
def convert (v : Value) : Except Failure Json :=
  v.toJson.mapError .conversion

/-- The answer to a halt. A `break` or `continue` that leaves all loops ends the script. -/
def Halt.answer (millis : Nat) : Halt → Except Failure Json
  | .fault f p =>
    let text := f.message ++ p.text
    .error (if f.isLimit then .limit text else .evaluation text)
  | .timeout => .error (.timeout millis)
  | .leave v => convert v
  | .break_ v => convert v
  | .continue_ => convert .unit

/-- Runs a script with a value for the constant `context`. -/
def run (limits : Limits) (millis : Nat) (source : String) (context : Json) : Outcome :=
  let budget := limits.budget millis
  match parse budget.sizes source with
  | .error e => ⟨.error (.evaluation ("Syntax error: " ++ e.fault.message ++ e.position.text)), 0⟩
  | .ok program =>
    let value := Value.ofJson context
    let start : State := ⟨0, [⟨"context", value, true, []⟩]⟩
    let fuel := budget.operations + 64 * (source.length + 4)
    match Machine.statements budget fuel
      (simplify budget.sizes [("context", some value)] program) start with
    | .ok v s => ⟨convert v, s.operations / operationsPerMilli⟩
    | .error h s => ⟨h.answer millis, s.operations / operationsPerMilli⟩

end Automation.Script
