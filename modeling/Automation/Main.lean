import Automation.CommandLine.Program
import Std.Time.DateTime.Timestamp
/-!
# The command

Reads the files and variables that the program asks for, runs it, and prints its answer.
-/

namespace Automation

/-- The environment variables that the program looks at. -/
def variableNames : List String :=
  ["HOME", "XDG_CONFIG_HOME", "STEPWISE_CONFIG_PATH", "STEPWISE_SCRIPT_TIMEOUT_MS",
    "STEPWISE_DEFAULT_MAX_ITERATIONS", "STEPWISE_STEP_TIMEOUT_MS", "STEPWISE_PERSIST_RUN_LOGS"]

/-- The variables that are set. -/
def readVariables : IO (List (String × String)) := do
  let values ← variableNames.mapM fun name => do return (name, ← IO.getEnv name)
  return values.filterMap fun (name, value) => value.map fun v => (name, v)

/-- The text of a file that can be read. -/
def readFile? (path : String) : IO (Option String) := do
  try
    return some (← IO.FS.readFile path)
  catch _ => return none

/-- The moment that is now. -/
def readNow : IO Moment := do
  let nanos := (← Std.Time.Timestamp.now).toNanosecondsSinceUnixEpoch.val.toNat
  let epoch : Moment := ⟨1970, 1, 1, 0, 0, 0, nanos % 1000000⟩
  return epoch.later (nanos / 1000000)

end Automation

/-- The program. It takes as long as the delays of a run ask for. -/
def main (arguments : List String) : IO UInt32 := do
  let started ← IO.monoMsNow
  let env ← Automation.readVariables
  let paths := Automation.CommandLine.paths env arguments
  let files ← paths.mapM fun path => do return (path, ← Automation.readFile? path)
  let now ← Automation.readNow
  let outcome := Automation.CommandLine.outcome
    ⟨fun path => (files.lookup path).join, env, now⟩ arguments
  IO.sleep ((outcome.millis - ((← IO.monoMsNow) - started)).toUInt32)
  IO.print outcome.output
  if let some error := outcome.error then
    IO.eprintln ("Error: " ++ error)
  return outcome.exitCode.toUInt32
