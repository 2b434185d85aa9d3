import Automation.Definition.Layout
import Automation.Yaml.Reader
/-!
# Files of definitions

A file holds one definition or, under the name `automations`, a list of them.
-/

namespace Automation.Definition

/-- Why a file holds no definitions. -/
inductive FileFault where
  | unreadable (path : String)
  | unsupported (path : String)
  deriving DecidableEq, Repr

/-- The wording of a fault. -/
def FileFault.message : FileFault → String
  | .unreadable path => "failed to read automation file: " ++ path
  | .unsupported path =>
    "unsupported automation document in " ++ path ++
      "; expected a definition or an 'automations' list"

/-- The definitions of a list. -/
def listOfTree (t : Tree) : Except DecodeFault (List Definition) := do
  let r ← t.record "MultiAutomationDocument" [.required "automations" (Tree.asList ofTree)]
  r.get "automations" (Tree.asList ofTree)

/-- The definitions of a document: those of a list, or else the only one. -/
def documentOfTree (t : Tree) : Except DecodeFault (List Definition) :=
  match listOfTree t with
  | .ok definitions => .ok definitions
  | .error _ => (ofTree t).map fun d => [d]

/-- The definitions in a file of some text, or in one that cannot be read. -/
def ofFile (path : String) (text : Option String) : Except FileFault (List Definition) :=
  match text with
  | none => .error (.unreadable path)
  | some text =>
    match (Yaml.readTree? text).map documentOfTree with
    | some (.ok definitions) => .ok definitions
    | _ => .error (.unsupported path)

end Automation.Definition
