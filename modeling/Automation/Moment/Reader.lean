import Automation.Moment.Basic
import Automation.Text.Blank
import Automation.Text.Search
/-!
# Reading moments

Two readers for the form `2026-03-01T12:00:00+01:00`. `Moment.ofRelaxed` allows blanks between the
parts, a sign before the year and fields with fewer digits, and says what is wrong with a text it
refuses. `Moment.ofStrict?` wants every field at its full width. Both take a space for the `T`,
lower case, a second of sixty and any number of digits after the point, of which nine count.
-/

namespace Automation.Moment

open Text

/-- Why a text is no moment. -/
inductive Fault where
  | tooShort
  | tooLong
  | invalid
  | outOfRange
  | impossible
  deriving DecidableEq, Repr

/-- The wording of a fault. -/
def Fault.message : Fault → String
  | .tooShort => "premature end of input"
  | .tooLong => "trailing input"
  | .invalid => "input contains invalid characters"
  | .outOfRange => "input is out of range"
  | .impossible => "no possible date and time matching input"

/-- A value read from the front of a text, and the rest. -/
abbrev Front (α : Type) := α × List Char

/-- The text is shorter than a number of bytes. -/
def isShorter (bytes : Nat) (cs : List Char) : Bool :=
  cs.foldl (fun n c => n + c.utf8Size) 0 < bytes

/-- A number of at most `max` digits. -/
def number (max : Nat) (cs : List Char) : Except Fault (Front Nat) :=
  match cs with
  | [] => .error .tooShort
  | _ =>
    let ds := (cs.take max).takeWhile isDigit
    match readDigits? ds with
    | none => .error .invalid
    | some n => .ok (n, cs.drop ds.length)

/-- A number of exactly `width` digits. -/
def fixed (width : Nat) (cs : List Char) : Except Fault (Front Nat) :=
  if isShorter width cs then .error .tooShort
  else
    let ds := cs.take width
    if ds.length = width ∧ ds.all isDigit then .ok ((readDigits? ds).getD 0, cs.drop width)
    else .error .invalid

/-- A number in a range. -/
def inRange (low high : Nat) (r : Except Fault (Front Nat)) : Except Fault (Front Nat) := do
  let (n, rest) ← r
  if low ≤ n ∧ n ≤ high then return (n, rest) else throw .outOfRange

/-- A character that has to stand at the front. -/
def mark (c : Char) : List Char → Except Fault (List Char)
  | [] => .error .tooShort
  | d :: rest => if d = c then .ok rest else .error .invalid

/-- The character between date and time. -/
def separator : List Char → Except Fault (List Char)
  | [] => .error .tooShort
  | c :: rest => if c = 'T' ∨ c = 't' ∨ c = ' ' then .ok rest else .error .invalid

/-- The nanoseconds after a point, if there is one. -/
def fraction (cs : List Char) : Except Fault (Front Nat) :=
  match cs with
  | '.' :: rest => do
    let (n, more) ← number 9 rest
    let used := rest.length - more.length
    return (n * Nat.pow 10 (9 - used), more.dropWhile isDigit)
  | _ => .ok (0, cs)

/-- The sign of an offset: whether it lies west of UTC. -/
def offsetSign : List Char → Except Fault (Front Bool)
  | [] => .error .tooShort
  | '+' :: rest => .ok (false, rest)
  | '-' :: rest => .ok (true, rest)
  | '−' :: rest => .ok (true, rest)
  | _ => .error .invalid

/-- The minutes of an offset, of which there are fewer than sixty. -/
def offsetMinutes (cs : List Char) : Except Fault (Front Nat) := do
  let (n, rest) ← fixed 2 cs
  if n < 60 then return (n, rest) else throw .outOfRange

/-- The offset from UTC in minutes; `colon` takes what stands between hours and minutes. -/
def offset (colon : List Char → Except Fault (List Char)) (cs : List Char) :
    Except Fault (Front Int) :=
  match cs with
  | 'Z' :: rest => .ok (0, rest)
  | 'z' :: rest => .ok (0, rest)
  | _ => do
    let (west, rest) ← offsetSign cs
    let (hours, rest) ← fixed 2 rest
    let rest ← colon rest
    let (minutes, rest) ← offsetMinutes rest
    let total : Int := (hours * 60 + minutes : Nat)
    return (if west then -total else total, rest)

/-- The years in which moments lie. -/
def isYear (y : Int) : Bool :=
  -262143 ≤ y && y ≤ 262142

/-- The moment of local fields and an offset, if the day exists and the offset is less than a day.
In UTC the moment has to lie in these years, too. -/
def assemble (m : Moment) (offset : Int) : Except Fault Moment :=
  if !isYear m.year ∨ m.day > daysIn m.year m.month ∨ offset.natAbs ≥ 1440 then .error .outOfRange
  else
    let moment := m.ofLocal offset
    if isYear moment.year then .ok moment else .error .impossible

/-- A year with an optional sign; without one it has at most four digits. A signed year has to fit
into 32 bits. -/
def relaxedYear (cs : List Char) : Except Fault (Front Int) :=
  match cs with
  | '-' :: rest =>
    (inRange 0 (Nat.pow 2 31) (number rest.length rest)).map fun (n, rest) => (-(n : Int), rest)
  | '+' :: rest =>
    (inRange 0 (Nat.pow 2 31 - 1) (number rest.length rest)).map fun (n, rest) => ((n : Int), rest)
  | _ => (number 4 cs).map fun (n, rest) => ((n : Int), rest)

/-- A field of at most two digits, blanks before it allowed. -/
def relaxedField (low high : Nat) (cs : List Char) : Except Fault (Front Nat) :=
  inRange low high (number 2 (trimStart cs))

/-- A mark with blanks before it. -/
def relaxedMark (c : Char) (cs : List Char) : Except Fault (List Char) :=
  mark c (trimStart cs)

/-- The offset of a relaxed text, which may be the word `UTC`. -/
def relaxedOffset (cs : List Char) : Except Fault (Front Int) :=
  if ((cs.take 3).map Char.toUpper) = ['U', 'T', 'C'] then .ok (0, cs.drop 3)
  else offset (fun rest => .ok (rest.dropWhile fun c => c == ':' || isBlank c)) cs

/-- Reads a moment with blanks between its parts. -/
def ofRelaxed (s : String) : Except Fault Moment := do
  let (year, cs) ← relaxedYear (trimStart s.toList)
  let cs ← relaxedMark '-' cs
  let (month, cs) ← relaxedField 1 12 cs
  let cs ← relaxedMark '-' cs
  let (day, cs) ← relaxedField 1 31 cs
  let cs ← separator cs
  let (hour, cs) ← relaxedField 0 23 cs
  let cs ← relaxedMark ':' cs
  let (minute, cs) ← relaxedField 0 59 cs
  let cs ← relaxedMark ':' cs
  let (second, cs) ← relaxedField 0 60 cs
  let (nanos, cs) ← fraction cs
  let (offset, cs) ← relaxedOffset (trimStart cs)
  if !(trimStart cs).isEmpty then throw .tooLong
  assemble ⟨year, month, day, hour, minute, second, nanos⟩ offset

/-- Reads a moment whose fields all have their full width. -/
def ofStrict (s : String) : Except Fault Moment := do
  let (year, cs) ← fixed 4 s.toList
  let cs ← mark '-' cs
  let (month, cs) ← inRange 1 12 (fixed 2 cs)
  let cs ← mark '-' cs
  let (day, cs) ← inRange 1 31 (fixed 2 cs)
  let cs ← separator cs
  let (hour, cs) ← inRange 0 23 (fixed 2 cs)
  let cs ← mark ':' cs
  let (minute, cs) ← inRange 0 59 (fixed 2 cs)
  let cs ← mark ':' cs
  let (second, cs) ← inRange 0 60 (fixed 2 cs)
  let (nanos, cs) ← fraction cs
  let (offset, cs) ← offset (mark ':') cs
  if !cs.isEmpty then throw .tooLong
  assemble ⟨year, month, day, hour, minute, second, nanos⟩ offset

/-- The moment that a strict text names. -/
def ofStrict? (s : String) : Option Moment :=
  (ofStrict s).toOption

end Automation.Moment
