import Automation.Json.Basic
import Automation.Text.Blank
import Automation.Text.Numeral
import Automation.Text.Search
/-!
# Paths

A path is written as segments separated by dots, with brackets around segments where convenient:
`rows[0].name` and `rows.0["name"]` are the same path. `Path.segments` splits a text into segments
and `Path.follow?` walks them through a JSON value.
-/

namespace Automation.Path

open Text

/-- The content of a pair of brackets without blanks and quotes at its ends. -/
def bracketed (inner : List Char) : List Char :=
  trimBoth (· == '\'') (trimBoth (· == '"') (trim inner))

/-- Puts a segment in front of others unless it is empty. -/
def push (segment : List Char) (rest : List (List Char)) : List (List Char) :=
  if segment.isEmpty then rest else segment :: rest

mutual

/-- The segments of a text, the first of which starts with the characters read so far. -/
def segmentsFrom (current : List Char) : List Char → List (List Char)
  | [] => push current []
  | '.' :: cs => push current (segmentsFrom [] cs)
  | '[' :: cs => push current (bracketFrom [] cs)
  | c :: cs => segmentsFrom (current ++ [c]) cs

/-- The segments of a text that continues inside brackets; the end of the text closes them too. -/
def bracketFrom (inner : List Char) : List Char → List (List Char)
  | [] => push (bracketed inner) []
  | ']' :: cs => push (bracketed inner) (segmentsFrom [] cs)
  | c :: cs => bracketFrom (inner ++ [c]) cs

end

/-- The segments of a path. -/
def segments (cs : List Char) : List String :=
  (segmentsFrom [] cs).map String.ofList

/-- The number that a segment spells as an index. -/
def index? (segment : String) : Option Nat :=
  readWord? maxWord64 segment.toList

/-- One step into a value: the field of an object or the item of an array. -/
def step? (value : Json) (segment : String) : Option Json :=
  match value with
  | .object fields => fields.lookup segment
  | .array items => (index? segment).bind fun i => items[i]?
  | _ => none

/-- The value at the end of a path. -/
def follow? : Json → List String → Option Json
  | value, [] => some value
  | value, segment :: rest => (step? value segment).bind fun next => follow? next rest

/-- The opening of a reference to a step. -/
def stepsRoot : List Char := ['s', 't', 'e', 'p', 's', '.']

/-- The name or number of the step that an expression refers to and the rest of its path, dotted and
without a leading `output`. Expressions with blanks inside refer to no step. -/
def stepReference? (expression : String) : Option (String × String) := do
  let rest ← stripStart? stepsRoot (trim expression.toList)
  if rest.any isBlank then none
  else
    match segments rest with
    | [] => none
    | reference :: path =>
      let path := match path with
        | "output" :: tail => tail
        | _ => path
      some (reference, ".".intercalate path)

end Automation.Path
