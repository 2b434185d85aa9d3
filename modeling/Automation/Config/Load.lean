import Automation.Config.Basic
import Automation.Yaml.Reader
/-!
# Loading the configuration

Settings come from a file, if there is one, and then from environment variables, which win.
`Config.load` reads the text of the file, applies the variables and checks the result.
-/

namespace Automation.Config

open Text

/-- Environment variables by name. -/
abbrev Variables := List (String × String)

/-- The value of a variable unless it is blank. -/
def override? (env : Variables) (name : String) : Option String :=
  (env.lookup name).filter fun value => !(trim value.toList).isEmpty

/-- The whole number that the value of a variable spells between blanks. -/
def overrideWord (limit : Nat) (name value : String) : Except Fault Nat :=
  match readWord? limit (trim value.toList) with
  | some n => .ok n
  | none => .error (.invalidOverride name value)

/-- The boolean that the value of a variable spells between blanks. -/
def overrideBool (name value : String) : Except Fault Bool :=
  let word := trimmed value
  if word == "true" then .ok true
  else if word == "false" then .ok false
  else .error (.invalidOverride name value)

/-- The configuration changed by a variable, if the variable is set. -/
def overrideWith {α : Type} (env : Variables) (name : String)
    (read : String → String → Except Fault α) (set : Config → α → Config) (c : Config) :
    Except Fault Config :=
  match override? env name with
  | none => .ok c
  | some value => (read name value).map (set c)

/-- The configuration changed by the variables that override settings. A step timeout of zero
milliseconds means none. -/
def override (env : Variables) (c : Config) : Except Fault Config := do
  let c ← overrideWith env "STEPWISE_SCRIPT_TIMEOUT_MS" (overrideWord maxWord64)
    (fun c n => { c with scriptMillis := n }) c
  let c ← overrideWith env "STEPWISE_DEFAULT_MAX_ITERATIONS" (overrideWord maxWord32)
    (fun c n => { c with defaultIterations := n }) c
  let c ← overrideWith env "STEPWISE_STEP_TIMEOUT_MS" (overrideWord maxWord64)
    (fun c n => { c with stepMillis := if n = 0 then none else some n }) c
  overrideWith env "STEPWISE_PERSIST_RUN_LOGS" overrideBool
    (fun c b => { c with persistsRunLogs := b }) c

/-- The configuration changed by variables and checked. -/
def settle (env : Variables) (c : Config) : Except Fault Config := do
  let c ← override env c
  check c
  return c

/-- The configuration in the text of a file. -/
def ofFile (path text : String) : Except Fault Config :=
  match (Yaml.readTree? text).map ofTree with
  | some (.ok c) => .ok c
  | _ => .error (.unreadable path)

/-- The configuration from a file of some text, or without a file, and from variables. -/
def load (env : Variables) (path : String) (text : Option String) : Except Fault Config := do
  let c ← match text with
    | some text => ofFile path text
    | none => .ok {}
  settle env c

/-- A path below a directory. -/
def below (directory name : String) : String :=
  if directory.toList.getLast? == some '/' then directory ++ name else directory ++ "/" ++ name

/-- The directory of configuration files: a configured absolute one, else one in the home
directory. -/
def directory (env : Variables) : String :=
  match (env.lookup "XDG_CONFIG_HOME").filter (startsWith ['/'] ·.toList) with
  | some path => path
  | none =>
    match (env.lookup "HOME").filter (!·.isEmpty) with
    | some home => below home ".config"
    | none => "."

/-- The path of the configuration file unless another is asked for. -/
def defaultPath (env : Variables) : String :=
  match override? env "STEPWISE_CONFIG_PATH" with
  | some path => path
  | none => below (below (directory env) "stepwise") "engine.yaml"

end Automation.Config
