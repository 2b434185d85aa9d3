import Automation.Tree.Basic
/-!
# Indented text of trees

`Tree.pretty` writes a tree as JSON over several lines, with two spaces for each level. Empty
sequences and mappings stay on one line.
-/

namespace Automation.Tree

/-- The start of a line at a level. -/
def lineStart (level : Nat) : List Char :=
  '\n' :: List.replicate (2 * level) ' '

mutual

/-- The characters of a tree at a level. -/
def writePretty (level : Nat) : Tree → List Char
  | .sequence _ [] => ['[', ']']
  | .sequence _ items =>
    '[' :: (writePrettyItems (level + 1) items ++ (lineStart level ++ [']']))
  | .mapping [] => ['\x7b', '\x7d']
  | .mapping entries =>
    '\x7b' :: (writePrettyEntries (level + 1) entries ++ (lineStart level ++ ['\x7d']))
  | .null => write .null
  | .bool b => write (.bool b)
  | .number n => write (.number n)
  | .string s => write (.string s)
  | .plain s => write (.plain s)
  | .unusable => write .unusable

/-- The items of a sequence, a line each at least. -/
def writePrettyItems (level : Nat) : List Tree → List Char
  | [] => []
  | [item] => lineStart level ++ writePretty level item
  | item :: rest =>
    lineStart level ++ (writePretty level item ++ ',' :: writePrettyItems level rest)

/-- The entries of a mapping, a line each at least. -/
def writePrettyEntries (level : Nat) : List (String × Tree) → List Char
  | [] => []
  | [(name, value)] =>
    lineStart level ++ (Json.quote name ++ ':' :: ' ' :: writePretty level value)
  | (name, value) :: rest =>
    lineStart level ++ (Json.quote name ++ ':' :: ' ' ::
      (writePretty level value ++ ',' :: writePrettyEntries level rest))

end

/-- The indented JSON text of a tree. -/
def pretty (t : Tree) : String :=
  String.ofList (writePretty 0 t)

end Automation.Tree
