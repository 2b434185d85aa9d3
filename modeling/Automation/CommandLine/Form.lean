import Automation.Text.Numeral
/-!
# Commands and their options

The program has commands, and a command has options with values. A `Form` describes a command, so
that the same description serves to read its arguments and to write the help about it
(`Form.help`): a sentence, a line of usage, and a line for each option.
-/

namespace Automation.CommandLine

open Text

/-- What the value of an option has to be: any text, a path, which is not empty, or a number. -/
inductive ValueKind where
  | text
  | path
  | number
  deriving DecidableEq, Repr

/-- The value is one of a kind. -/
def ValueKind.admits (k : ValueKind) (value : String) : Bool :=
  match k with
  | .text => true
  | .path => !value.isEmpty
  | .number => (readWord? maxWord64 value.toList).isSome

/-- An option of a command: its name, the letter that may stand for it, what its value is called
and has to be, and what it is for. -/
structure Option_ where
  name : String
  letter : Option Char := none
  value : String
  kind : ValueKind := .text
  isRequired : Bool := false
  isRepeatable : Bool := false
  about : String
  deriving Repr

/-- A command: its name, what it does and its options. -/
structure Form where
  name : String
  about : String
  options : List Option_
  deriving Repr

/-- The option that names the file of definitions. -/
def definitionOption : Option_ :=
  { name := "definition", letter := some 'd', value := "DEFINITION", kind := .path,
    isRequired := true, about := "Path to an automation YAML/JSON file" }

/-- The command that executes an automation. -/
def Form.run : Form :=
  { name := "run"
    about := "Execute an automation and print the run result as JSON"
    options := [
      definitionOption,
      { name := "automation", value := "AUTOMATION",
        about := "Automation id within the file; defaults to the first definition" },
      { name := "trigger", letter := some 't', value := "TRIGGER", kind := .path,
        about := "Path to a JSON file holding the trigger payload" },
      { name := "tenant", value := "TENANT",
        about := "Tenant executing the run; defaults to the definition owner" },
      { name := "config", letter := some 'c', value := "CONFIG", kind := .path,
        about := "Engine configuration file" },
      { name := "env", value := "KEY=VALUE", isRepeatable := true,
        about := "Tenant environment variable exposed as `env.KEY` (repeatable)" },
      { name := "quota", value := "QUOTA", kind := .number,
        about := "Maximum number of runs the tenant may start" }] }

/-- The command that checks definitions. -/
def Form.validate : Form :=
  { name := "validate"
    about := "Validate automation definitions and print diagnostics"
    options := [definitionOption] }

/-- The command that prints the catalogue. -/
def Form.steps : Form :=
  { name := "steps"
    about := "Print the step catalogue with descriptors and schemas"
    options := [] }

/-- The commands. -/
def Form.all : List Form :=
  [Form.run, Form.validate, Form.steps]

/-- The name of the program. -/
def programName : String := "stepwise"

/-- The version of the program. -/
def programVersion : String := "0.1.0"

/-- Terms and what they mean, a line each; the meanings begin in one column. -/
def glossary (entries : List (String × String)) : List String :=
  let width := (entries.map (·.1.length)).foldl max 0
  entries.map fun (term, meaning) =>
    "  " ++ term ++ String.ofList (List.replicate (width + 2 - term.length) ' ') ++ meaning

/-- The option with its value, as it is written. -/
def Option_.written (o : Option_) : String :=
  "--" ++ o.name ++ " <" ++ o.value ++ ">"

/-- The option as the help shows it, with its letter in front. -/
def Option_.term (o : Option_) : String :=
  match o.letter with
  | some c => "-" ++ String.singleton c ++ ", " ++ o.written
  | none => "    " ++ o.written

/-- The line that shows how a command is used. -/
def Form.usage (f : Form) : String :=
  String.intercalate " " (["Usage:", programName, f.name] ++
    (if f.options.any (!·.isRequired) then ["[OPTIONS]"] else []) ++
    (f.options.filter (·.isRequired)).map Option_.written)

/-- The lines of help about a command. -/
def Form.help (f : Form) : List String :=
  [f.about, "", f.usage, "", "Options:"] ++
    glossary (f.options.map (fun o => (o.term, o.about)) ++ [("-h, --help", "Print help")])

/-- What information is asked for: about the program, a command, the command that gives help, or the
version. -/
inductive Topic where
  | program
  | command (form : Form)
  | help
  | version
  deriving Repr

/-- What the command that gives help does. -/
def helpAbout : String :=
  "Print this message or the help of the given subcommand(s)"

/-- The lines of information about a topic. -/
def Topic.lines : Topic → List String
  | .program =>
    ["Run multi-tenant automations", "", "Usage: " ++ programName ++ " <COMMAND>", "",
      "Commands:"] ++
    glossary (Form.all.map (fun f => (f.name, f.about)) ++ [("help", helpAbout)]) ++
    ["", "Options:"] ++
    glossary [("-h, --help", "Print help"), ("-V, --version", "Print version")]
  | .command f => f.help
  | .help =>
    [helpAbout, "", "Usage: " ++ programName ++ " help [COMMAND]...", "", "Arguments:"] ++
    glossary [("[COMMAND]...", "Print help for the subcommand(s)")]
  | .version => [programName ++ " " ++ programVersion]

/-- The information about a topic. -/
def Topic.text (t : Topic) : String :=
  String.join (t.lines.map (· ++ "\n"))

end Automation.CommandLine
