import Automation.Fields
import Automation.Json.Text
/-!
# Document trees

A document tree is what a reader makes of a text before anything is known about its meaning. Unlike
a JSON value it keeps the entries of mappings as they were written, in order and with repetitions,
and it has unquoted scalars, whose kind depends on what is asked for. A part that is well-formed but
stands for no value (`Tree.unusable`) does no harm where nobody asks for it. Every JSON value is a
tree (`Tree.ofJson`), and every tree stands for at most one JSON value (`Tree.toJson?`).
-/

namespace Automation

/-- A document tree. A sequence `byPosition` may stand for a record with its fields in order. -/
inductive Tree where
  | null
  | bool (value : Bool)
  | number (value : Number)
  | string (value : String)
  | plain (text : String)
  | sequence (byPosition : Bool) (items : List Tree)
  | mapping (entries : List (String × Tree))
  | unusable
  deriving Inhabited, Repr

namespace Tree

mutual

/-- The tree of a JSON value. -/
def ofJson : Json → Tree
  | .null => .null
  | .bool b => .bool b
  | .number n => .number n
  | .string s => .string s
  | .array items => .sequence true (ofItems items)
  | .object fields => .mapping (ofFields fields)

/-- The trees of the items of an array. -/
def ofItems : List Json → List Tree
  | [] => []
  | item :: rest => ofJson item :: ofItems rest

/-- The entries of the fields of an object. -/
def ofFields : List (String × Json) → List (String × Tree)
  | [] => []
  | (name, value) :: rest => (name, ofJson value) :: ofFields rest

end

/-- A tree that is there, or an unusable part. -/
def orUnusable (t : Option Tree) : Tree :=
  t.getD .unusable

/-- The mapping of names to values; if a name is no text, it is unusable. -/
def ofNamed (entries : List (Option String × Tree)) : Tree :=
  let named (e : Option String × Tree) : Option (String × Tree) := e.1.map fun name => (name, e.2)
  orUnusable ((entries.mapM named).map .mapping)

/-- A collection where so many more levels of collections may come; a collection too deep is
unusable. -/
def within (depth : Nat) (t : Tree) : Tree :=
  if depth = 0 then .unusable else t

mutual

/-- The characters of a tree's JSON text, entries in their own order. An unquoted scalar is written
as a string, and what is unusable as null. -/
def write : Tree → List Char
  | .null => ['n', 'u', 'l', 'l']
  | .bool true => ['t', 'r', 'u', 'e']
  | .bool false => ['f', 'a', 'l', 's', 'e']
  | .number n => n.text
  | .string s => Json.quote s
  | .plain s => Json.quote s
  | .sequence _ items => '[' :: (writeItems items ++ [']'])
  | .mapping entries => '\x7b' :: (writeEntries entries ++ ['\x7d'])
  | .unusable => ['n', 'u', 'l', 'l']

/-- The items of a sequence, with commas between them. -/
def writeItems : List Tree → List Char
  | [] => []
  | [item] => write item
  | item :: rest => write item ++ ',' :: writeItems rest

/-- The entries of a mapping, with commas between them. -/
def writeEntries : List (String × Tree) → List Char
  | [] => []
  | [(name, value)] => Json.quote name ++ ':' :: write value
  | (name, value) :: rest => Json.quote name ++ ':' :: (write value ++ ',' :: writeEntries rest)

end

/-- The JSON text of a tree. -/
def text (t : Tree) : String :=
  String.ofList (write t)

end Tree

end Automation
