import Automation.Double.Decimal
import Automation.Text.Search
import Automation.Tree.Basic
/-!
# Unquoted scalars

An unquoted scalar is a null, a boolean, an integer, a float or else a text, by the first of these
that its characters spell. `Tree.toJson?` uses this to turn trees into JSON values.
-/

namespace Automation

open Text

namespace Plain

/-- The spellings of null. -/
def isNull (s : String) : Bool :=
  s == "" || s == "~" || s == "null" || s == "Null" || s == "NULL"

/-- The boolean that a scalar spells. -/
def bool? (s : String) : Option Bool :=
  if s == "true" || s == "True" || s == "TRUE" then some true
  else if s == "false" || s == "False" || s == "FALSE" then some false
  else none

/-- The value of a digit in bases up to sixteen. -/
def digitOf? (c : Char) : Option Nat :=
  if '0' ≤ c ∧ c ≤ '9' then some (c.toNat - 48)
  else if 'a' ≤ c ∧ c ≤ 'f' then some (c.toNat - 87)
  else if 'A' ≤ c ∧ c ≤ 'F' then some (c.toNat - 55)
  else none

/-- The number that digits of a base continue to. -/
def readBase (base : Nat) : Nat → List Char → Option Nat
  | n, [] => some n
  | n, c :: cs =>
    match (digitOf? c).filter (· < base) with
    | some d => readBase base (base * n + d) cs
    | none => none

/-- The value of a nonempty run of digits of a base. -/
def readBase? (base : Nat) (cs : List Char) : Option Nat :=
  if cs.isEmpty then none else readBase base 0 cs

/-- Digits with a needless leading zero, which spell a text and no number. -/
def isZeroLed (cs : List Char) : Bool :=
  let body := match cs with
    | '-' :: rest => rest
    | '+' :: rest => rest
    | _ => cs
  match body with
  | '0' :: rest => !rest.isEmpty && rest.all isDigit
  | _ => false

/-- The magnitude that a scalar spells in base 16, 8, 2 or 10. -/
def magnitude? (cs : List Char) : Option Nat :=
  match cs with
  | '0' :: 'x' :: rest => readBase? 16 rest
  | '0' :: 'o' :: rest => readBase? 8 rest
  | '0' :: 'b' :: rest => readBase? 2 rest
  | _ => readDigits? cs

/-- The integer that a scalar spells. -/
def int? (s : String) : Option Int :=
  let cs := s.toList
  if isZeroLed cs then none
  else match cs with
    | '-' :: rest => (magnitude? rest).map fun n => -(n : Int)
    | '+' :: rest => (magnitude? rest).map Int.ofNat
    | _ => (magnitude? cs).map Int.ofNat

/-- The float that a scalar spells; infinities and the not-a-number give `some none`. -/
def float? (s : String) : Option (Option Double) :=
  if [".inf", ".Inf", ".INF", "+.inf", "+.Inf", "+.INF", "-.inf", "-.Inf", "-.INF", ".nan", ".NaN",
      ".NAN"].contains s then some none
  else
    let cs := s.toList
    if isZeroLed cs ∨ startsWith ['+', '+'] cs ∨ startsWith ['+', '-'] cs then none
    else match Double.ofText? cs with
      | some d => if d.isFinite then some (some d) else none
      | none => none

/-- The JSON value of what a scalar spells if it is no integer: a float, null for one that is not
finite, or a text. -/
def floatOrText (s : String) : Json :=
  match float? s with
  | some (some d) => .number (.double d)
  | some none => .null
  | none => .string s

/-- The JSON value that a scalar spells. Integers beyond 64 bits have none, and those beyond 128
bits are taken for floats. -/
def toJson? (s : String) : Option Json :=
  if isNull s then some .null
  else match bool? s with
    | some b => some (.bool b)
    | none =>
      match int? s with
      | some n =>
        if -(Nat.pow 2 63 : Nat) ≤ n ∧ n < Nat.pow 2 64 then some (.int n)
        else if -(Nat.pow 2 127 : Nat) ≤ n ∧ n < Nat.pow 2 128 then none
        else some (floatOrText s)
      | none => some (floatOrText s)

end Plain

namespace Tree

mutual

/-- The JSON value of a tree; of repeated entries the last counts. -/
def toJson? : Tree → Option Json
  | .null => some .null
  | .bool b => some (.bool b)
  | .number n => some (.number n)
  | .string s => some (.string s)
  | .plain s => Plain.toJson? s
  | .sequence _ items => (toItems? items).map .array
  | .mapping entries => (toFields? entries []).map .object
  | .unusable => none

/-- The JSON values of the items of a sequence. -/
def toItems? : List Tree → Option (List Json)
  | [] => some []
  | item :: rest => do return (← toJson? item) :: (← toItems? rest)

/-- The entries put into the fields gathered so far. -/
def toFields? : List (String × Tree) → List (String × Json) → Option (List (String × Json))
  | [], fields => some fields
  | (name, value) :: rest, fields => do
    toFields? rest (Fields.insert name (← toJson? value) fields)

end

end Tree

end Automation
