import Automation.Text.Numeral
/-!
# Places in a document

A cursor is a place in a document with the text that follows. Columns decide in such documents which
collection an entry belongs to, so a cursor counts lines and columns. A line may end in a line feed,
a carriage return or both, in a next-line character, or in a line or paragraph separator.
-/

namespace Automation.Yaml

/-- A space or a tab. -/
def isGap (c : Char) : Bool :=
  c == ' ' || c == '\t'

/-- A character that ends a line. -/
def isBreak (c : Char) : Bool :=
  c == '\n' || c == '\r' || c.toNat == 0x85 || c.toNat == 0x2028 || c.toNat == 0x2029

/-- A character that stands between words. -/
def isApart (c : Char) : Bool :=
  isGap c || isBreak c

/-- The mark of byte order, which may stand at the start of a line. -/
def isByteOrderMark (c : Char) : Bool :=
  c.toNat == 0xFEFF

/-- A character that a document may hold: no control character apart from tabs and line ends. -/
def isPrintable (c : Char) : Bool :=
  isApart c || (32 ≤ c.toNat && c.toNat < 127) ||
    (160 ≤ c.toNat && c.toNat != 0xFFFE && c.toNat != 0xFFFF)

/-- A place in a document and the text from there on. -/
structure Cursor where
  rest : List Char
  index : Nat := 0
  line : Nat := 0
  column : Nat := 0
  deriving Repr, Inhabited

namespace Cursor

/-- The text is at its end. -/
def isAtEnd (c : Cursor) : Bool :=
  c.rest.isEmpty

/-- The next character is of a kind. -/
def sees (c : Cursor) (p : Char → Bool) : Bool :=
  c.rest.head?.any p

/-- The character after the next one is of a kind. -/
def seesSecond (c : Cursor) (p : Char → Bool) : Bool :=
  c.rest.tail.head?.any p

/-- The end or something between words comes after some characters. -/
def isApartAfter (c : Cursor) (n : Nat) : Bool :=
  (c.rest.drop n).head?.all isApart

/-- The place after some characters of the line. -/
def skip (c : Cursor) (n : Nat) : Cursor :=
  ⟨c.rest.drop n, c.index + n, c.line, c.column + n⟩

/-- The place after all characters of a kind, which end no line. -/
def skipWhile (c : Cursor) (p : Char → Bool) : Cursor :=
  c.skip (c.rest.takeWhile p).length

/-- The start of the line after the line end that comes next, and the character that stands for that
end: a line feed, or the separator itself. -/
def nextLine (c : Cursor) : Char × Cursor :=
  match c.rest with
  | '\r' :: '\n' :: rest => ('\n', ⟨rest, c.index + 2, c.line + 1, 0⟩)
  | e :: rest =>
    (if e.toNat == 0x2028 || e.toNat == 0x2029 then e else '\n',
      ⟨rest, c.index + 1, c.line + 1, 0⟩)
  | [] => ('\n', c)

/-- A line begins with a marker of three characters and nothing right after it. -/
def isAtMarker (c : Cursor) (m : Char) : Bool :=
  c.column == 0 && c.rest.take 3 == [m, m, m] && c.isApartAfter 3

/-- A line begins that marks where a document starts or ends. -/
def isAtBoundary (c : Cursor) : Bool :=
  c.isAtMarker '-' || c.isAtMarker '.'

end Cursor

end Automation.Yaml
