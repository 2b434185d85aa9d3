import Automation.Double.Rounding
import Automation.Double.Shortest
import Automation.Text.Numeral
/-!
# Writing and reading doubles

Doubles are written with their shortest digits, either positionally or with an exponent. The reader
`ofText?` takes plain decimals with an optional sign, fraction and exponent and the words for the
infinities and for not-a-number.
-/

namespace Automation.Double

open Automation.Text

/-- The digits of a decimal and the exponent of its first digit. -/
def Decimal.scientific (d : Decimal) : List Char × Int :=
  let ds := digits d.coefficient
  (ds, d.exponent + (ds.length - 1))

/-- Positional digits of a decimal; a whole number gets no point. -/
def Decimal.positional (d : Decimal) : List Char :=
  let ds := digits d.coefficient
  match d.exponent with
  | .ofNat zeros => if d.coefficient = 0 then ds else ds ++ List.replicate zeros '0'
  | .negSucc k =>
    let places := k + 1
    if ds.length > places then
      ds.take (ds.length - places) ++ '.' :: ds.drop (ds.length - places)
    else '0' :: '.' :: (List.replicate (places - ds.length) '0' ++ ds)

/-- Digits with a point after the first, if there are more, and an exponent; `plus` asks for a sign
before exponents that are not negative. -/
def Decimal.withExponent (plus : Bool) (d : Decimal) : List Char :=
  let (ds, e) := d.scientific
  let body := match ds with
    | first :: second :: rest => first :: '.' :: second :: rest
    | _ => ds
  let sign := if plus ∧ e ≥ 0 then ['+'] else []
  body ++ 'e' :: (sign ++ integer e)

/-- A minus sign for negative numbers. -/
def signText (d : Double) : List Char :=
  if d.isNegative then ['-'] else []

/-- The text with a point: `.0` follows a whole number. -/
def Decimal.pointed (d : Decimal) : List Char :=
  let text := d.positional
  if text.contains '.' then text else text ++ ['.', '0']

/-- Reads a run of digits onto a number; the rest starts with no digit. Also counts the digits. -/
def readRun : Nat → Nat → List Char → Nat × Nat × List Char
  | n, count, [] => (n, count, [])
  | n, count, c :: cs =>
    match digitValue? c with
    | some d => readRun (10 * n + d) (count + 1) cs
    | none => (n, count, c :: cs)

/-- Reads the exponent part, if there is one, up to the end of the text. -/
def readExponent? : List Char → Option Int
  | [] => some 0
  | c :: cs =>
    if c = 'e' ∨ c = 'E' then
      match cs with
      | '-' :: rest => (readDigits? rest).map fun n => -(n : Int)
      | '+' :: rest => (readDigits? rest).map Int.ofNat
      | _ => (readDigits? cs).map Int.ofNat
    else none

/-- The double nearest to an unsigned decimal: digits, a point anywhere among or around them, and an
exponent. -/
def ofUnsigned? (negative : Bool) (cs : List Char) : Option Double :=
  let (whole, wholeCount, rest) := readRun 0 0 cs
  let (m, places, count, rest) := match rest with
    | '.' :: rest =>
      let (m, places, rest) := readRun whole 0 rest
      (m, places, wholeCount + places, rest)
    | _ => (whole, 0, wholeCount, rest)
  if count = 0 then none
  else (readExponent? rest).map fun e => ofDecimal negative m (e - places)

/-- The words that stand for numbers without digits, in lower case. -/
def ofWord? (negative : Bool) (cs : List Char) : Option Double :=
  let word := String.ofList (cs.map Char.toLower)
  if word = "inf" ∨ word = "infinity" then some (infinity negative)
  else if word = "nan" then some nan
  else none

/-- The double that a text names, if it is a decimal or one of the words, with an optional sign. -/
def ofText? (cs : List Char) : Option Double :=
  let (negative, body) : Bool × List Char := match cs with
    | '-' :: rest => (true, rest)
    | '+' :: rest => (false, rest)
    | _ => (false, cs)
  (ofUnsigned? negative body).orElse fun _ => ofWord? negative body

end Automation.Double
