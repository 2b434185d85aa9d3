/-!
# Classes of characters, and trimming

A class of characters is given by the ranges of its code points, or by a test like that for blanks.
Trimming removes the characters of Unicode's `White_Space` property from the ends of a text. All
functions work on lists of characters; `Text.trim` is the one most callers want.
-/

namespace Automation.Text

/-- Ranges of code points, each with its first and its last. -/
abbrev Ranges := List (Nat × Nat)

/-- A character whose code point lies in one of the ranges. -/
def Ranges.has (rs : Ranges) (c : Char) : Bool :=
  rs.any fun (first, last) => first ≤ c.toNat && c.toNat ≤ last

/-- A character of Unicode's `White_Space` property. -/
def isBlank (c : Char) : Bool :=
  let n := c.toNat
  (9 ≤ n && n ≤ 13) || n == 32 || n == 0x85 || n == 0xA0 || n == 0x1680 ||
    (0x2000 ≤ n && n ≤ 0x200A) || n == 0x2028 || n == 0x2029 || n == 0x202F || n == 0x205F ||
    n == 0x3000

/-- Drops the characters at the end that satisfy `p`. -/
def dropEndWhile (p : Char → Bool) (cs : List Char) : List Char :=
  cs.foldr (fun c rest => if rest.isEmpty && p c then [] else c :: rest) []

/-- Drops blanks at the start. -/
def trimStart (cs : List Char) : List Char :=
  cs.dropWhile isBlank

/-- Drops blanks at the end. -/
def trimEnd (cs : List Char) : List Char :=
  dropEndWhile isBlank cs

/-- Drops blanks at both ends. -/
def trim (cs : List Char) : List Char :=
  trimEnd (trimStart cs)

/-- Drops at both ends the characters that satisfy `p`. -/
def trimBoth (p : Char → Bool) (cs : List Char) : List Char :=
  dropEndWhile p (cs.dropWhile p)

/-- `trim` on strings. -/
def trimmed (s : String) : String :=
  String.ofList (trim s.toList)

end Automation.Text
