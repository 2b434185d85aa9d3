import Automation.Definition.Layout
import Automation.Script.Run
/-!
# Configuration

The configuration bounds scripts, loops, delays and steps, and says whether finished runs are
written to the store. `Config.check` refuses values that make no sense, and `Config.iterations` is
the number of iterations that a loop gets.
-/

namespace Automation

open Text

namespace Script.Limits

/-- The limits that a tree stands for; absent ones have their defaults. -/
def ofTree (t : Tree) : Except DecodeFault Limits := do
  let size := Tree.asWord maxWord64 "usize"
  let r ← t.record "ScriptLimits"
    [.optional_ "max_operations" Tree.asWord64, .optional_ "max_string_size" size,
      .optional_ "max_array_size" size, .optional_ "max_map_size" size]
  let base : Limits := {}
  return {
    maxOperations := ← r.getD "max_operations" Tree.asWord64 base.maxOperations
    maxStringSize := ← r.getD "max_string_size" size base.maxStringSize
    maxArraySize := ← r.getD "max_array_size" size base.maxArraySize
    maxMapSize := ← r.getD "max_map_size" size base.maxMapSize }

/-- The limits as a value. -/
def toJson (l : Limits) : Json :=
  .object
    [("max_array_size", .int l.maxArraySize), ("max_map_size", .int l.maxMapSize),
      ("max_operations", .int l.maxOperations), ("max_string_size", .int l.maxStringSize)]

end Script.Limits

/-- The settings of the engine. Without a step timeout steps may take any time. -/
structure Config where
  scriptMillis : Nat := 1000
  scriptLimits : Script.Limits := {}
  defaultIterations : Nat := 200
  iterationCeiling : Nat := 1000
  loopSeparator : String := ","
  stepMillis : Option Nat := some 60000
  maxDelayMillis : Nat := 60000
  persistsRunLogs : Bool := false
  deriving DecidableEq, Repr, Inhabited

namespace Config

/-- The configuration that a tree stands for; absent settings have their defaults. -/
def ofTree (t : Tree) : Except DecodeFault Config := do
  let r ← t.record "EngineConfig"
    [.optional_ "script_timeout_ms" Tree.asWord64,
      .optional_ "script_limits" Script.Limits.ofTree,
      .optional_ "default_max_iterations" Tree.asWord32,
      .optional_ "max_iterations_ceiling" Tree.asWord32,
      .optional_ "loop_separator" Tree.asString,
      .optional_ "step_timeout_ms" (Tree.asOption Tree.asWord64),
      .optional_ "max_delay_ms" Tree.asWord64,
      .optional_ "persist_run_logs" Tree.asBool]
  let base : Config := {}
  return {
    scriptMillis := ← r.getD "script_timeout_ms" Tree.asWord64 base.scriptMillis
    scriptLimits := ← r.getD "script_limits" Script.Limits.ofTree base.scriptLimits
    defaultIterations := ← r.getD "default_max_iterations" Tree.asWord32 base.defaultIterations
    iterationCeiling := ← r.getD "max_iterations_ceiling" Tree.asWord32 base.iterationCeiling
    loopSeparator := ← r.getD "loop_separator" Tree.asString base.loopSeparator
    stepMillis := ← r.getD "step_timeout_ms" (Tree.asOption Tree.asWord64) base.stepMillis
    maxDelayMillis := ← r.getD "max_delay_ms" Tree.asWord64 base.maxDelayMillis
    persistsRunLogs := ← r.getD "persist_run_logs" Tree.asBool base.persistsRunLogs }

/-- The configuration as a value. -/
def toJson (c : Config) : Json :=
  .object
    [("default_max_iterations", .int c.defaultIterations),
      ("loop_separator", .string c.loopSeparator), ("max_delay_ms", .int c.maxDelayMillis),
      ("max_iterations_ceiling", .int c.iterationCeiling),
      ("persist_run_logs", .bool c.persistsRunLogs), ("script_limits", c.scriptLimits.toJson),
      ("script_timeout_ms", .int c.scriptMillis),
      ("step_timeout_ms", (c.stepMillis.map fun n => Json.int n).getD .null)]

/-- The number of iterations of a loop that asks for some number: at least one, and no more than the
ceiling. -/
def iterations (c : Config) (requested : Option Nat) : Nat :=
  min (max (requested.getD c.defaultIterations) 1) (max c.iterationCeiling 1)

/-- Why a configuration cannot be had. -/
inductive Fault where
  | invalidValue (field reason : String)
  | invalidOverride (name value : String)
  | unreadable (path : String)
  deriving DecidableEq, Repr

/-- The wording of a fault. -/
def Fault.message : Fault → String
  | .invalidValue field reason => "invalid value for '" ++ field ++ "': " ++ reason
  | .invalidOverride name value =>
    "environment variable " ++ name ++ " has invalid value '" ++ value ++ "'"
  | .unreadable path => "failed to parse config file: " ++ path

/-- The reason why zero is refused. -/
def positiveReason : String := "must be greater than zero"

/-- The reason why a default above the ceiling is refused. -/
def ceilingReason (ceiling : Nat) : String :=
  "must not exceed max_iterations_ceiling (" ++ String.ofList (digits ceiling) ++ ")"

/-- The first setting that has to be positive and is not. -/
def zeroField? (c : Config) : Option String :=
  ([("script_timeout_ms", c.scriptMillis),
    ("script_limits.max_operations", c.scriptLimits.maxOperations),
    ("script_limits.max_string_size", c.scriptLimits.maxStringSize),
    ("script_limits.max_array_size", c.scriptLimits.maxArraySize),
    ("script_limits.max_map_size", c.scriptLimits.maxMapSize),
    ("default_max_iterations", c.defaultIterations)].find? (·.2 == 0)).map (·.1)

/-- Refuses settings that make no sense: zeros, a default above the ceiling, and an empty
separator. -/
def check (c : Config) : Except Fault Unit :=
  match c.zeroField? with
  | some field => .error (.invalidValue field positiveReason)
  | none =>
    if c.defaultIterations > c.iterationCeiling then
      .error (.invalidValue "default_max_iterations" (ceilingReason c.iterationCeiling))
    else if c.loopSeparator.isEmpty then
      .error (.invalidValue "loop_separator" "cannot be empty")
    else .ok ()

end Config

end Automation
