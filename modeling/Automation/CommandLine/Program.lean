import Automation.CommandLine.Arguments
import Automation.Config.Load
import Automation.Definition.File
import Automation.Runner
import Automation.Tree.Pretty
/-!
# The program on the command line

`run` executes an automation of a file with a store of its own, `validate` checks the definitions of
a file, and `steps` prints the catalogue. Files and environment variables are given as functions of
their names, and the answer is the text to print, the error and the exit code.
-/

namespace Automation.CommandLine

open Text

/-- What the program has to go by: the texts of the files that can be read, the environment
variables and the time. -/
structure Surroundings where
  files : String → Option String
  env : Config.Variables
  now : Moment

/-- What the program prints, the error that it ends with, its exit code, and how long it has to
take. -/
structure Outcome where
  output : String := ""
  error : Option String := none
  exitCode : Nat := 0
  millis : Nat := 0
  deriving DecidableEq, Repr, Inhabited

/-- Why a command fails. -/
inductive Fault where
  | config (fault : Config.Fault)
  | file (fault : Definition.FileFault)
  | unknownAutomation (automation path : String)
  | noAutomations (path : String)
  | unreadableTrigger (path : String)
  | malformedTrigger (path : String)
  | malformedVariable (pair : String)
  | failedValidation (count : Nat)
  | aborted (runId : String)
  deriving DecidableEq, Repr

/-- The wording of a fault. -/
def Fault.message : Fault → String
  | .config fault => fault.message
  | .file fault => fault.message
  | .unknownAutomation automation path => "automation '" ++ automation ++ "' not found in " ++ path
  | .noAutomations path => path ++ " contains no automations"
  | .unreadableTrigger path => "failed to read trigger file: " ++ path
  | .malformedTrigger path => "trigger file " ++ path ++ " is not valid JSON"
  | .malformedVariable pair =>
    "environment variable '" ++ pair ++ "' must be written as KEY=VALUE"
  | .failedValidation count =>
    String.ofList (digits count) ++ " automation(s) failed validation"
  | .aborted runId => "run " ++ runId ++ " aborted"

/-- The outcome of a fault after some output. -/
def failing (output : String) (fault : Fault) : Outcome :=
  { output := output, error := some fault.message, exitCode := 1 }

/-- The configuration from the file that is asked for, or else from the usual one. -/
def configuration (x : Surroundings) (path : Option String) : Except Fault Config :=
  let path := path.getD (Config.defaultPath x.env)
  (Config.load x.env path (x.files path)).mapError .config

/-- The definitions of a file. -/
def definitions (x : Surroundings) (path : String) : Except Fault (List Definition) :=
  (Definition.ofFile path (x.files path)).mapError .file

/-- The definition of an id, or the first one. -/
def selected (x : Surroundings) (path : String) (automation : Option String) :
    Except Fault Definition := do
  let all ← definitions x path
  match automation with
  | some id =>
    match all.find? (·.id == id) with
    | some d => return d
    | none => throw (.unknownAutomation id path)
  | none =>
    match all with
    | d :: _ => return d
    | [] => throw (.noAutomations path)

/-- The payload in a file; without a file it is null. -/
def payload (x : Surroundings) : Option String → Except Fault Json
  | none => .ok .null
  | some path =>
    match x.files path with
    | none => .error (.unreadableTrigger path)
    | some text =>
      match Json.ofText? text with
      | some v => .ok v
      | none => .error (.malformedTrigger path)

/-- The variables written as names and values with an equals sign between them; of repeated names
the last value counts. -/
def environment : List (String × String) → List String → Except Fault (List (String × String))
  | done, [] => .ok done
  | done, pair :: rest =>
    match cut? ['='] pair.toList with
    | none => .error (.malformedVariable pair)
    | some (name, value) =>
      environment (Entries.insert (String.ofList (trim name)) (String.ofList value) done) rest

/-- A text as a line. -/
def line (s : String) : String :=
  s ++ "\n"

/-- Executes an automation. -/
def run (x : Surroundings) (a : RunArguments) : Except Fault Outcome := do
  let config ← configuration x a.config
  let definition ← selected x a.definition a.automation
  let tenant := (a.tenant.map Tenant.mk).getD definition.tenant
  let payload ← payload x a.trigger
  let environment ← environment [] a.environment
  let runner : Runner :=
    { config := config, environments := PerTenant.empty.set tenant environment }
  let services : Services :=
    { clock := { start := x.now }, quota := { common := a.quota }, webhooks :=
        { beyond := .error "no network" } }
  let (finished, services) := runner.execute definition payload tenant services
  let millis := services.clock.elapsed
  match finished with
  | .ok run => return { output := line run.toTree.pretty, millis := millis }
  | .error fault =>
    return { failing (line fault.run.toTree.pretty) (.aborted fault.run.runId) with
      millis := millis }

/-- The line of a warning. -/
def warningLine (w : Warning) : String :=
  line ("  warning [" ++ w.step ++ " " ++ w.sourcePath ++ "]: " ++ w.message)

/-- What is printed about a definition. -/
def report (d : Definition) : String :=
  match d.check .all with
  | .ok [] => line (d.id ++ ": ok")
  | .ok warnings =>
    line (d.id ++ ": ok with " ++ String.ofList (digits warnings.length) ++ " warning(s)") ++
      String.join (warnings.map warningLine)
  | .error fault => line (d.id ++ ": error: " ++ fault.message)

/-- The definition is refused. -/
def isRefused (d : Definition) : Bool :=
  match d.check .all with
  | .ok _ => false
  | .error _ => true

/-- Checks the definitions of a file. -/
def validate (x : Surroundings) (path : String) : Except Fault Outcome := do
  let all ← definitions x path
  let output := String.join (all.map report)
  match (all.filter isRefused).length with
  | 0 => return { output := output }
  | count => return failing output (.failedValidation count)

/-- Prints the catalogue. -/
def steps : Outcome :=
  let entries := Registry.all.catalogue.map Tree.ofEntries
  { output := line (Tree.sequence true entries).pretty }

/-- What the program does for its arguments. -/
def outcome (x : Surroundings) (arguments : List String) : Outcome :=
  match Command.ofArguments arguments with
  | .error (.topic t) => { output := t.text }
  | .error .usage =>
    { error := some "usage: stepwise <run|validate|steps> [OPTIONS]", exitCode := 2 }
  | .ok .steps => steps
  | .ok (.validate path) =>
    match validate x path with
    | .ok o => o
    | .error fault => failing "" fault
  | .ok (.run arguments) =>
    match run x arguments with
    | .ok o => o
    | .error fault => failing "" fault

/-- The files that the program may read for its arguments. -/
def paths (env : Config.Variables) (arguments : List String) : List String :=
  match Command.ofArguments arguments with
  | .ok (.run a) =>
    [a.config.getD (Config.defaultPath env), a.definition] ++ a.trigger.toList
  | .ok (.validate path) => [path]
  | _ => []

end Automation.CommandLine
