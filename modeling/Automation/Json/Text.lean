import Automation.Json.Basic
import Automation.Double.Decimal
/-!
# The text of JSON values

`Json.text` writes a value without blanks. Strings escape the quote, the backslash and the control
characters below space; doubles have their shortest digits, positionally from `0.00001` up to below
`10 ^ 16` and with an exponent elsewhere.
-/

namespace Automation

open Text

/-- The text of a double: exponents of two digits and small numbers are written with `e`, and a
whole number keeps its point. -/
def Double.jsonText (d : Double) : List Char :=
  let s := d.shortest
  let (_, e) := s.scientific
  d.signText ++ (if e < -5 ∨ e ≥ 16 then s.withExponent true else s.pointed)

/-- The text of a number. -/
def Number.text : Number → List Char
  | .int n => integer n
  | .double d => d.jsonText

namespace Json

/-- The lower-case hexadecimal digit of a number below sixteen. -/
def hexDigit (n : Nat) : Char :=
  if n < 10 then Char.ofNat (48 + n) else Char.ofNat (87 + n)

/-- The characters that stand for one character inside a quoted string. -/
def escapeChar (c : Char) : List Char :=
  if c = '"' then ['\\', '"']
  else if c = '\\' then ['\\', '\\']
  else if c.toNat = 8 then ['\\', 'b']
  else if c.toNat = 12 then ['\\', 'f']
  else if c = '\n' then ['\\', 'n']
  else if c = '\r' then ['\\', 'r']
  else if c = '\t' then ['\\', 't']
  else if c.toNat < 32 then
    ['\\', 'u', '0', '0', hexDigit (c.toNat / 16), hexDigit (c.toNat % 16)]
  else [c]

/-- A quoted string. -/
def quote (s : String) : List Char :=
  '"' :: (s.toList.flatMap escapeChar ++ ['"'])

mutual

/-- The characters of a value's text. -/
def write : Json → List Char
  | .null => ['n', 'u', 'l', 'l']
  | .bool true => ['t', 'r', 'u', 'e']
  | .bool false => ['f', 'a', 'l', 's', 'e']
  | .number n => n.text
  | .string s => quote s
  | .array items => '[' :: (writeItems items ++ [']'])
  | .object fields => '\x7b' :: (writeFields fields ++ ['\x7d'])

/-- The items of an array, with commas between them. -/
def writeItems : List Json → List Char
  | [] => []
  | [item] => write item
  | item :: rest => write item ++ ',' :: writeItems rest

/-- The fields of an object, with commas between them. -/
def writeFields : List (String × Json) → List Char
  | [] => []
  | [(name, value)] => quote name ++ ':' :: write value
  | (name, value) :: rest => quote name ++ ':' :: (write value ++ ',' :: writeFields rest)

end

/-- The text of a value. -/
def text (v : Json) : String :=
  String.ofList (write v)

end Json

end Automation
