import Automation.Json.Basic
import Automation.Text.Blank
import Automation.Text.Base64
import Automation.Text.Numeral
import Automation.Text.Search
import Automation.Text.Utf8
/-!
# Templates

A text may hold expressions between `${{` and `}}`. `Template.expressions` lists them, and
`Template.single?` recognises a text that is one template and nothing else.
-/

namespace Automation.Template

open Text

/-- Opens a template. -/
def opener : List Char := ['$', '\x7b', '\x7b']

/-- Closes a template. -/
def closer : List Char := ['\x7d', '\x7d']

/-- The expressions of a text in order, trimmed, empty ones left out. A template that is not closed
ends the search. `fuel` bounds the number of templates. -/
def expressionsWithin : Nat → List Char → List String
  | 0, _ => []
  | fuel + 1, cs =>
    match cut? opener cs with
    | none => []
    | some (_, rest) =>
      match cut? closer rest with
      | none => []
      | some (inner, after) =>
        match trim inner with
        | [] => expressionsWithin fuel after
        | expression => String.ofList expression :: expressionsWithin fuel after

/-- The expressions of a text. -/
def expressions (s : String) : List String :=
  expressionsWithin s.toList.length s.toList

/-- The expression of a text that is a single template between blanks. -/
def single? (s : String) : Option String := do
  let rest ← stripStart? opener (trim s.toList)
  let inner ← stripEnd? closer rest
  if occurs opener inner ∨ occurs closer inner then none
  else
    match trim inner with
    | [] => none
    | cs => some (String.ofList cs)

/-- The word before the encoded source of a script. -/
def scriptMarker : List Char := ['s', 'c', 'r', 'i', 'p', 't']

/-- What follows the script marker and at least one blank, trimmed. -/
def scriptLiteral? (cs : List Char) : Option (List Char) := do
  let rest ← stripStart? scriptMarker cs
  if rest.head?.any isBlank then some (trim rest) else none

/-- The expression names a script. -/
def isScript (expression : String) : Bool :=
  (scriptLiteral? (trim expression.toList)).isSome

/-- The template that runs a script. -/
def ofScript (source : String) : String :=
  let encoded := (Base64.encode (Utf8.encode source.toList)).map Char.ofNat
  String.ofList
    (opener ++ ' ' :: (scriptMarker ++ ' ' :: '"' :: (encoded ++ '"' :: ' ' :: closer)))

/-- An expression and the place of the text that holds it. -/
structure Reference where
  sourcePath : String
  expression : String
  deriving DecidableEq, Repr

/-- The place of an item under the place of its array. -/
def itemPath (path : String) (index : Nat) : String :=
  path ++ "[" ++ String.ofList (digits index) ++ "]"

/-- The place of a field under the place of its object. -/
def fieldPath (path name : String) : String :=
  path ++ "." ++ name

mutual

/-- The expressions in the texts of a value, each with its place. -/
def references (path : String) : Json → List Reference
  | .string s => (expressions s).map fun e => ⟨path, e⟩
  | .array items => itemReferences path 0 items
  | .object fields => fieldReferences path fields
  | _ => []

/-- The expressions in the items of an array, counted from `index`. -/
def itemReferences (path : String) (index : Nat) : List Json → List Reference
  | [] => []
  | item :: rest => references (itemPath path index) item ++ itemReferences path (index + 1) rest

/-- The expressions in the fields of an object. -/
def fieldReferences (path : String) : List (String × Json) → List Reference
  | [] => []
  | (name, value) :: rest =>
    references (fieldPath path name) value ++ fieldReferences path rest

end

end Automation.Template
