import Automation.Condition
import Automation.Definition.Basic
import Automation.Path
import Automation.Run.Status
import Automation.Step.Catalogue
import Automation.Template
/-!
# Checking definitions

Before a run starts its definition is checked. `Definition.check` refuses definitions whose steps
have bad or repeated names, kinds that may not be used, loops around kinds that cannot be looped, or
malformed failure conditions. `Definition.warnings` lists references to steps that do not exist or
come too late; these are allowed, and resolve to null.
-/

namespace Automation

open Text

/-- What is wrong with a definition. -/
inductive DefinitionFault where
  | badName (step : String)
  | repeatedName (step : String)
  | cannotLoop (step : String) (kind : StepKind)
  | badCondition (step : String) (fault : Condition.Fault)
  deriving DecidableEq, Repr

/-- A text between single quotes. -/
def apostrophed (s : String) : String :=
  "'" ++ s ++ "'"

/-- The wording of a fault. -/
def DefinitionFault.message : DefinitionFault → String
  | .badName step =>
    "step identifier " ++ apostrophed step ++ " must contain only letters, digits, '-' or '_'"
  | .repeatedName step => "step identifier " ++ apostrophed step ++ " is used more than once"
  | .cannotLoop step kind =>
    "step " ++ apostrophed step ++ " loops over " ++ kind.wireName ++
      " which does not support loops"
  | .badCondition step fault =>
    "step " ++ apostrophed step ++ " has an invalid loop failure condition: " ++ fault.message

/-- Why a run cannot go on, other than by the failure of a step. -/
inductive EngineFault where
  | unregistered (kind : StepKind)
  | invalidDefinition (fault : DefinitionFault)
  | otherTenant (automation : String) (owner requested : Tenant)
  | illegalTransition (current next : RunStatus)
  | repeatedOutputs (step : String)
  deriving DecidableEq, Repr

/-- The wording of a fault. -/
def EngineFault.message : EngineFault → String
  | .unregistered kind => "step kind " ++ kind.wireName ++ " is not registered"
  | .invalidDefinition fault => "invalid automation definition: " ++ fault.message
  | .otherTenant automation owner requested =>
    "automation " ++ automation ++ " belongs to tenant " ++ owner.name ++ ", not " ++
      requested.name
  | .illegalTransition current next =>
    "illegal run transition from " ++ current.title ++ " to " ++ next.title
  | .repeatedOutputs step =>
    "execution context invariant violated: outputs for step " ++ apostrophed step ++
      " were already recorded"

/-- A reference in a step that will find nothing. -/
structure Warning where
  step : String
  sourcePath : String
  message : String
  deriving DecidableEq, Repr

/-- A character of a step's name. -/
def Step.isNameChar (c : Char) : Bool :=
  isLetter c || isDigit c || c == '_' || c == '-'

/-- The name of a step: some letters, digits, dashes and underscores. -/
def Step.isName (s : String) : Bool :=
  !s.isEmpty && s.toList.all isNameChar

/-- The condition of a loop, normalised, if there is one that is not empty. -/
def Loop.condition? (l : Loop) : Option String :=
  Condition.normalize? l.failureCondition

/-- Refuses a loop that its kind does not allow or whose failure condition is malformed. -/
def Loop.check (l : Loop) (step : String) (kind : StepKind) : Except EngineFault Unit :=
  if !kind.descriptor.canLoop then .error (.invalidDefinition (.cannotLoop step kind))
  else
    match l.condition? with
    | none => .ok ()
    | some condition =>
      (Condition.check condition).mapError fun fault =>
        .invalidDefinition (.badCondition step fault)

/-- Refuses a step that comes after others of some names. -/
def Step.check (s : Step) (registry : Registry) (seen : List String) : Except EngineFault Unit :=
  if !isName s.id then .error (.invalidDefinition (.badName s.id))
  else if seen.contains s.id then .error (.invalidDefinition (.repeatedName s.id))
  else if !registry.includes s.kind then .error (.unregistered s.kind)
  else
    match s.loop with
    | none => .ok ()
    | some loop => loop.check s.id s.kind

namespace Definition

/-- Checks steps that come after others of some names, until one is refused. -/
def checkSteps (registry : Registry) : List String → List Step → Except EngineFault Unit
  | _, [] => .ok ()
  | seen, s :: rest => do
    s.check registry seen
    checkSteps registry (s.id :: seen) rest

/-- The expressions in a step's inputs and in the input of its loop, each with its place. -/
def stepReferences (s : Step) : List Template.Reference :=
  (s.inputs.list.flatMap fun (field, value) => Template.references ("inputs." ++ field) value) ++
    match s.loop with
    | some loop => Template.references "loop.input" loop.input
    | none => []

/-- The position of the step that a reference means: by name, or else by number. -/
def referred? (d : Definition) (reference : String) : Option Nat :=
  match d.position? reference with
  | some position => some position
  | none => (Path.index? reference).filter fun n => 1 ≤ n ∧ n ≤ d.steps.length

/-- What is wrong with an expression in the step at a position. -/
def problem? (d : Definition) (position : Nat) (expression : String) : Option String :=
  match Path.stepReference? expression with
  | none => none
  | some (reference, _) =>
    match d.referred? reference with
    | none => some ("references unknown step " ++ apostrophed reference)
    | some referred =>
      if referred < position then none
      else
        some ("references step " ++ apostrophed reference ++
          " which has not run yet; it resolves to null")

/-- The warnings about the step at a position. -/
def stepWarnings (d : Definition) (position : Nat) (s : Step) : List Warning :=
  (stepReferences s).filterMap fun r =>
    (d.problem? position r.expression).map fun message => ⟨s.id, r.sourcePath, message⟩

/-- The warnings about steps, the first of which is at a position. -/
def warningsFrom (d : Definition) : Nat → List Step → List Warning
  | _, [] => []
  | position, s :: rest => d.stepWarnings position s ++ warningsFrom d (position + 1) rest

/-- The warnings about a definition. -/
def warnings (d : Definition) : List Warning :=
  d.warningsFrom 1 d.steps

/-- Checks a definition and gives the warnings about it. -/
def check (d : Definition) (registry : Registry) : Except EngineFault (List Warning) := do
  checkSteps registry [] d.steps
  return d.warnings

end Definition

end Automation
