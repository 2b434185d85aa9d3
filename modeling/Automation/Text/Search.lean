/-!
# Finding and cutting

A marker is a list of characters that is looked for inside a text. `stripStart?` and `stripEnd?`
remove a marker at an end, `cut?` splits a text at the first place where a marker stands, and
`pieces` splits it at every such place, left to right and without overlap.
-/

namespace Automation.Text

/-- The rest of the text after `marker`, if the text starts with it. -/
def stripStart? : List Char → List Char → Option (List Char)
  | [], cs => some cs
  | _ :: _, [] => none
  | m :: marker, c :: cs => if m = c then stripStart? marker cs else none

/-- The text before `marker`, if the text ends with it. -/
def stripEnd? (marker cs : List Char) : Option (List Char) :=
  (stripStart? marker.reverse cs.reverse).map List.reverse

/-- The text starts with `marker`. -/
def startsWith (marker cs : List Char) : Bool :=
  (stripStart? marker cs).isSome

/-- The text before the first place where `marker` stands, and the text after the marker. -/
def cut? (marker : List Char) : List Char → Option (List Char × List Char)
  | [] => if marker.isEmpty then some ([], []) else none
  | c :: cs =>
    match stripStart? marker (c :: cs) with
    | some rest => some ([], rest)
    | none => (cut? marker cs).map fun (before, after) => (c :: before, after)

/-- The marker stands somewhere in the text. -/
def occurs (marker cs : List Char) : Bool :=
  (cut? marker cs).isSome

/-- The pieces between the places where `marker` stands, for a marker that is not empty; `fuel`
bounds their number. -/
def piecesWithin (marker : List Char) : Nat → List Char → List (List Char)
  | 0, cs => [cs]
  | fuel + 1, cs =>
    match cut? marker cs with
    | some (before, after) => before :: piecesWithin marker fuel after
    | none => [cs]

/-- The pieces between the places where `marker` stands. An empty marker cuts nothing. -/
def pieces (marker cs : List Char) : List (List Char) :=
  if marker.isEmpty then [cs] else piecesWithin marker cs.length cs

/-- Removes `marker` at the start as often as it stands there; an empty marker removes nothing. -/
def stripStartAll (marker : List Char) : Nat → List Char → List Char
  | 0, cs => cs
  | fuel + 1, cs =>
    match marker, stripStart? marker cs with
    | [], _ => cs
    | _, some rest => stripStartAll marker fuel rest
    | _, none => cs

end Automation.Text
