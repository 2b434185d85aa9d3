import Automation.CommandLine.Form
import Automation.Text.Search
/-!
# Arguments of the command line

The first argument names a command, and the others are options with values: `--name value`,
`--name=value`, `-n value` or `-nvalue`. Every option may come once, except for those that gather
several values.
-/

namespace Automation.CommandLine

open Text

/-- What an argument is: an option with or without a value attached, a request for help or for the
version, the mark after which there are no more options, or anything else. -/
inductive Argument where
  | option (o : Option_) (attached : Option String)
  | help
  | version
  | endOfOptions
  | other
  deriving Repr

/-- The argument that begins with two dashes. -/
def longArgument (options : List Option_) (body : List Char) : Argument :=
  let (name, attached) := match cut? ['='] body with
    | some (name, value) => (String.ofList name, some (String.ofList value))
    | none => (String.ofList body, none)
  if name.isEmpty ∧ attached.isNone then .endOfOptions
  else if name == "help" ∧ attached.isNone then .help
  else if name == "version" ∧ attached.isNone then .version
  else
    match options.find? (·.name == name) with
    | some o => .option o attached
    | none => .other

/-- The argument that begins with one dash and a letter. -/
def shortArgument (options : List Option_) (letter : Char) (body : List Char) : Argument :=
  if letter = 'h' then .help
  else if letter = 'V' then .version
  else
    match options.find? (·.letter == some letter) with
    | some o =>
      .option o <|
        match body with
        | [] => none
        | '=' :: value => some (String.ofList value)
        | value => some (String.ofList value)
    | none => .other

/-- What an argument is. -/
def Argument.of (options : List Option_) (arg : String) : Argument :=
  match arg.toList with
  | '-' :: '-' :: body => longArgument options body
  | '-' :: letter :: body => shortArgument options letter body
  | _ => .other

/-- The argument can be the value of the option before it. -/
def isValue (arg : String) : Bool :=
  match arg.toList with
  | '-' :: _ :: _ => false
  | _ => true

/-- Options that have been read, with their values, in order. -/
abbrev Given := List (String × String)

/-- Why there is nothing to do: information is asked for, or the arguments are wrong. -/
inductive Refusal where
  | topic (topic : Topic)
  | usage
  deriving Repr

/-- The options with one more. -/
def give (given : Given) (o : Option_) (value : String) : Except Refusal Given :=
  if !o.kind.admits value ∨ (!o.isRepeatable ∧ (given.lookup o.name).isSome) then .error .usage
  else .ok (given ++ [(o.name, value)])

/-- Reads arguments as options of a command, after those that have been given. -/
def readOptions (f : Form) (given : Given) : List String → Except Refusal Given
  | [] => .ok given
  | [arg] =>
    match Argument.of f.options arg with
    | .help => .error (.topic (.command f))
    | .option o (some value) => give given o value
    | .endOfOptions => .ok given
    | .option _ none | .version | .other => .error .usage
  | arg :: next :: rest =>
    match Argument.of f.options arg with
    | .help => .error (.topic (.command f))
    | .option o (some value) =>
      (give given o value).bind fun given => readOptions f given (next :: rest)
    | .option o none =>
      if isValue next then (give given o next).bind fun given => readOptions f given rest
      else .error .usage
    | .endOfOptions | .version | .other => .error .usage

/-- The arguments of a run. -/
structure RunArguments where
  definition : String
  automation : Option String := none
  trigger : Option String := none
  tenant : Option String := none
  config : Option String := none
  environment : List String := []
  quota : Option Nat := none
  deriving DecidableEq, Repr

/-- What is asked for. -/
inductive Command where
  | run (arguments : RunArguments)
  | validate (definition : String)
  | steps
  deriving Repr

/-- The arguments of a run from its options. -/
def RunArguments.ofGiven (given : Given) : Except Refusal RunArguments :=
  match given.lookup "definition" with
  | none => .error .usage
  | some definition => .ok {
      definition := definition
      automation := given.lookup "automation"
      trigger := given.lookup "trigger"
      tenant := given.lookup "tenant"
      config := given.lookup "config"
      environment := (given.filter (·.1 == "env")).map (·.2)
      quota := (given.lookup "quota").bind fun n => readWord? maxWord64 n.toList }

/-- What help is asked for by the names of commands after the word `help`. -/
def helpTopic : List String → Except Refusal Topic
  | [] => .ok .program
  | ["help"] => .ok .help
  | [name] =>
    match Form.all.find? (·.name == name) with
    | some f => .ok (.command f)
    | none => .error .usage
  | _ => .error .usage

/-- Reads the arguments of the program. -/
def Command.ofArguments : List String → Except Refusal Command
  | "run" :: rest => do return .run (← RunArguments.ofGiven (← readOptions Form.run [] rest))
  | "validate" :: rest => do
    match (← readOptions Form.validate [] rest).lookup definitionOption.name with
    | some path => return .validate path
    | none => throw .usage
  | "steps" :: rest => do
    let _ ← readOptions Form.steps [] rest
    return .steps
  | "help" :: rest => do throw (.topic (← helpTopic rest))
  | arg :: _ =>
    .error (match Argument.of [] arg with
      | .help => .topic .program
      | .version => .topic .version
      | _ => .usage)
  | [] => .error .usage

end Automation.CommandLine
