import Automation.Json.Reader
import Automation.Text.Search
import Automation.Text.Blank
/-!
# Values in texts and conditions

How a value is spliced into a text, when it counts as true, and the loose equality and membership
that conditions use.
-/

namespace Automation.Json

open Text

/-- The text of a value inside another text: strings as they are, null as nothing, all else as
JSON. -/
def display : Json → String
  | .string s => s
  | .null => ""
  | v => v.text

/-- Null, false, zero, the empty string and the string `false` do not count as true. -/
def isTruthy : Json → Bool
  | .null => false
  | .bool b => b
  | .number n => !n.isZero
  | .string s => s != "" && s != "false"
  | .array _ => true
  | .object _ => true

/-- Values are loosely equal if they are equal or are displayed alike. -/
def alike (a b : Json) : Bool :=
  same a b || display a == display b

/-- The items of a text that is a JSON array. -/
def itemsOfText? (s : String) : Option (List Json) :=
  match ofText? s with
  | some (.array items) => some items
  | _ => none

/-- Membership: an array holds a value loosely equal to the needle; a text that starts like an array
is read as one; any other text holds the displayed needle. -/
def includes (haystack needle : Json) : Bool :=
  match haystack with
  | .array items => items.any fun item => alike item needle
  | .string s =>
    if (trimStart s.toList).head? = some '[' then
      match itemsOfText? s with
      | some items => items.any fun item => alike item needle
      | none => false
    else occurs (display needle).toList s.toList
  | _ => false

end Automation.Json
