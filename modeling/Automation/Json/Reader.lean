import Automation.Double.Rounding
import Automation.Text.Numeral
import Automation.Tree.Plain
/-!
# Reading JSON

`Json.readTree?` reads a text that holds one JSON value, with blanks around and between its tokens.
The result is a tree, so the order and repetition of an object's fields are still there. An integer
that fits into 64 bits, signed or not, is an integer; any other number is a double. A number that is
no finite double, a text with a lone surrogate, and containers nested more than 127 deep are
well-formed but unusable (`Tree.unusable`). `Json.ofText?` gives the value of the tree.
-/

namespace Automation.Json

open Text

/-- A blank of JSON. -/
def isSpace (c : Char) : Bool :=
  c == ' ' || c == '\n' || c == '\t' || c == '\r'

/-- Drops blanks at the start. -/
def skipSpace (cs : List Char) : List Char :=
  cs.dropWhile isSpace

/-- The deepest nesting of containers. -/
def maxDepth : Nat := 127

/-- A whole number read from digits that may be too many for 64 bits: the leading digits that fit
and the number of digits left out. -/
structure Leading where
  value : Nat
  dropped : Nat

/-- Adds a digit, or counts it if it does not fit any more. -/
def Leading.push (l : Leading) (digit : Nat) : Leading :=
  if l.dropped = 0 ∧ 10 * l.value + digit ≤ maxWord64 then ⟨10 * l.value + digit, 0⟩
  else ⟨l.value, l.dropped + 1⟩

/-- The digits at the start, added to those read before, and the rest. Also counts them. -/
def readDigits (l : Leading) (count : Nat) : List Char → Leading × Nat × List Char
  | [] => (l, count, [])
  | c :: cs =>
    match digitValue? c with
    | some d => readDigits (l.push d) (count + 1) cs
    | none => (l, count, c :: cs)

/-- The fraction digits at the start: those that fit are added and counted, the others skipped. -/
def readFraction (value places : Nat) (full : Bool) : List Char → Nat × Nat × List Char
  | [] => (value, places, [])
  | c :: cs =>
    match digitValue? c with
    | some d =>
      if full ∨ 10 * value + d > maxWord64 then readFraction value places true cs
      else readFraction (10 * value + d) (places + 1) false cs
    | none => (value, places, c :: cs)

/-- `10 ^ n` as a double. -/
def tenPower (n : Nat) : Double :=
  Double.ofRatio false (Nat.pow 10 n) 1

/-- `f · 10 ^ e`, by one multiplication or division for exponents of magnitude up to 308 and by
divisions through `10 ^ 308` first for smaller ones. Nothing for a number that is too large. -/
def scaleByTen (f : Double) : Nat → Int → Option Double
  | 0, _ => some f
  | fuel + 1, e =>
    if e.natAbs ≤ 308 then
      if e ≥ 0 then
        let scaled := f.times (tenPower e.toNat)
        if scaled.isFinite then some scaled else none
      else some (f.dividedBy (tenPower e.natAbs))
    else if f.isZero then some f
    else if e ≥ 0 then none
    else scaleByTen (f.dividedBy (tenPower 308)) fuel (e + 308)

/-- The double of a sign, the leading digits and a power of ten. The digits are rounded to a double
before they are scaled. -/
def assemble (negative : Bool) (value : Nat) (e : Int) : Option Number :=
  (scaleByTen (Double.ofInt value) 5 e).map fun d => .double (if negative then d.neg else d)

/-- The largest exponent that is taken at its value. -/
def maxExponent : Nat := Nat.pow 2 31 - 1

/-- The number of a sign, leading digits and an exponent text that follows an exponent mark; nothing
for one that is too large. -/
def readExponent (negative : Bool) (value : Nat) (e : Int) (cs : List Char) :
    Option (Option Number × List Char) :=
  let (down, body) : Bool × List Char := match cs with
    | '+' :: rest => (false, rest)
    | '-' :: rest => (true, rest)
    | _ => (false, cs)
  let ds := body.takeWhile isDigit
  let rest := body.dropWhile isDigit
  (readDigits? ds).map fun n =>
    if n > maxExponent then
      (if value ≠ 0 ∧ !down then none else some (.double (Double.zero negative)), rest)
    else (assemble negative value (if down then e - n else e + n), rest)

/-- What may follow the whole part of a number: a fraction, an exponent or neither. -/
def readNumberTail (negative : Bool) (l : Leading) (cs : List Char) :
    Option (Option Number × List Char) :=
  match cs with
  | '.' :: rest =>
    if !(rest.head?.any isDigit) then none
    else
      let (value, places, rest') := readFraction l.value 0 false rest
      let e : Int := l.dropped - places
      match rest' with
      | 'e' :: more => readExponent negative value e more
      | 'E' :: more => readExponent negative value e more
      | _ => some (assemble negative value e, rest')
  | 'e' :: more => readExponent negative l.value l.dropped more
  | 'E' :: more => readExponent negative l.value l.dropped more
  | _ =>
    if l.dropped > 0 then some (assemble negative l.value l.dropped, cs)
    else if !negative then some (some (.int l.value), cs)
    else if l.value = 0 ∨ l.value > Nat.pow 2 63 then
      some (some (.double (Double.ofRatio true l.value 1)), cs)
    else some (some (.int (-(l.value : Int))), cs)

/-- A number: a sign, a whole part without leading zeros, and its tail. One that is too large is
well-formed all the same. -/
def readNumber (cs : List Char) : Option (Option Number × List Char) :=
  let (negative, body) : Bool × List Char := match cs with
    | '-' :: rest => (true, rest)
    | _ => (false, cs)
  match body with
  | '0' :: rest =>
    if rest.head?.any isDigit then none else readNumberTail negative ⟨0, 0⟩ rest
  | _ =>
    let (l, count, rest) := readDigits ⟨0, 0⟩ 0 body
    if count = 0 then none else readNumberTail negative l rest

/-- The value of a hexadecimal digit. -/
def hexValue? (c : Char) : Option Nat :=
  if '0' ≤ c ∧ c ≤ '9' then some (c.toNat - 48)
  else if 'a' ≤ c ∧ c ≤ 'f' then some (c.toNat - 87)
  else if 'A' ≤ c ∧ c ≤ 'F' then some (c.toNat - 55)
  else none

/-- The number of four hexadecimal digits. -/
def hexUnit? (a b c d : Char) : Option Nat := do
  return (((← hexValue? a) * 16 + (← hexValue? b)) * 16 + (← hexValue? c)) * 16 + (← hexValue? d)

/-- The character of a letter after a backslash. -/
def unescape? (c : Char) : Option Char :=
  match c with
  | '"' => some '"'
  | '\\' => some '\\'
  | '/' => some '/'
  | 'b' => some (Char.ofNat 8)
  | 'f' => some (Char.ofNat 12)
  | 'n' => some '\n'
  | 'r' => some '\r'
  | 't' => some '\t'
  | _ => none

/-- The rest of a string after its opening quote: its characters, an escaped surrogate being one,
and what follows the closing quote. -/
def readUnits : List Char → Option (List Nat × List Char)
  | [] => none
  | '"' :: rest => some ([], rest)
  | '\\' :: 'u' :: a :: b :: c :: d :: rest => do
    let unit ← hexUnit? a b c d
    let (units, rest) ← readUnits rest
    return (unit :: units, rest)
  | '\\' :: c :: rest => do
    let e ← unescape? c
    let (units, rest) ← readUnits rest
    return (e.toNat :: units, rest)
  | c :: rest =>
    if c = '\\' ∨ c.toNat < 32 then none
    else (readUnits rest).map fun (units, rest) => (c.toNat :: units, rest)

/-- The characters of units: a high surrogate and a low one after it are one character, and no
surrogate may stand alone. -/
def joinUnits? : List Nat → Option (List Char)
  | [] => some []
  | [n] => if 0xD800 ≤ n ∧ n < 0xE000 then none else some [Char.ofNat n]
  | n :: m :: rest =>
    if 0xD800 ≤ n ∧ n < 0xE000 then
      if n < 0xDC00 ∧ 0xDC00 ≤ m ∧ m < 0xE000 then
        (joinUnits? rest).map (Char.ofNat (0x10000 + (n - 0xD800) * 1024 + (m - 0xDC00)) :: ·)
      else none
    else (joinUnits? (m :: rest)).map (Char.ofNat n :: ·)

/-- The text of units. -/
def unitsText? (units : List Nat) : Option String :=
  (joinUnits? units).map String.ofList

mutual

/-- One value, blanks before it allowed, and the rest. `depth` is the nesting still allowed; two
units of fuel for each character are enough. -/
def readValue (depth : Nat) : Nat → List Char → Option (Tree × List Char)
  | 0, _ => none
  | fuel + 1, cs =>
    match skipSpace cs with
    | 'n' :: 'u' :: 'l' :: 'l' :: rest => some (.null, rest)
    | 't' :: 'r' :: 'u' :: 'e' :: rest => some (.bool true, rest)
    | 'f' :: 'a' :: 'l' :: 's' :: 'e' :: rest => some (.bool false, rest)
    | '"' :: rest =>
      (readUnits rest).map fun (units, rest) =>
        (Tree.orUnusable ((unitsText? units).map .string), rest)
    | '[' :: rest =>
      match skipSpace rest with
      | ']' :: rest => some (Tree.within depth (.sequence true []), rest)
      | _ => (readItems (depth - 1) fuel rest).map fun (items, rest) =>
          (Tree.within depth (.sequence true items), rest)
    | '\x7b' :: rest =>
      match skipSpace rest with
      | '\x7d' :: rest => some (Tree.within depth (.mapping []), rest)
      | _ => (readEntries (depth - 1) fuel rest).map fun (entries, rest) =>
          (Tree.within depth (Tree.ofNamed entries), rest)
    | rest => (readNumber rest).map fun (n, rest) => (Tree.orUnusable (n.map .number), rest)

/-- The items of an array up to and including its closing bracket. -/
def readItems (depth : Nat) : Nat → List Char → Option (List Tree × List Char)
  | 0, _ => none
  | fuel + 1, cs =>
    match readValue depth fuel cs with
    | none => none
    | some (item, rest) =>
      match skipSpace rest with
      | ',' :: rest => (readItems depth fuel rest).map fun (items, rest) => (item :: items, rest)
      | ']' :: rest => some ([item], rest)
      | _ => none

/-- The entries of an object up to and including its closing brace. -/
def readEntries (depth : Nat) :
    Nat → List Char → Option (List (Option String × Tree) × List Char)
  | 0, _ => none
  | fuel + 1, cs =>
    match skipSpace cs with
    | '"' :: rest =>
      match readUnits rest with
      | none => none
      | some (units, rest) =>
        match skipSpace rest with
        | ':' :: rest =>
          match readValue depth fuel rest with
          | none => none
          | some (value, rest) =>
            let entry := (unitsText? units, value)
            match skipSpace rest with
            | ',' :: rest =>
              (readEntries depth fuel rest).map fun (entries, rest) => (entry :: entries, rest)
            | '\x7d' :: rest => some ([entry], rest)
            | _ => none
        | _ => none
    | _ => none

end

/-- The tree of a text that holds one JSON value and nothing else but blanks. Parts of it may be
unusable. -/
def readTree? (cs : List Char) : Option Tree :=
  match readValue maxDepth (2 * cs.length + 2) cs with
  | some (t, rest) => if (skipSpace rest).isEmpty then some t else none
  | none => none

/-- The value that a text holds. -/
def ofChars? (cs : List Char) : Option Json :=
  (readTree? cs).bind Tree.toJson?

/-- The value that a text holds. -/
def ofText? (s : String) : Option Json :=
  ofChars? s.toList

end Automation.Json
