import Automation.Yaml.Scalar
/-!
# Tokens of block-structured documents

A document of block mappings, block sequences and flow collections is first cut into marks. In a
flow collection brackets show where it ends; a block collection ends where a line begins further
left than its first entry, and `blockEnd` stands there. A mapping needs no sign before its first
key, so that only the colon after it tells that a key has begun: a place is held before everything
that may be a key (`Entry.place`) and filled when the colon comes. Such a key is on one line with
its colon, at most 1024 characters before it.

`scan?` refuses anchors, tags and directives.
-/

namespace Automation.Yaml

/-- What a token is. A scalar tells whether it is plain, that is, written without quotes and on
lines that are joined. -/
inductive Mark where
  | documentStart
  | documentEnd
  | blockSequence
  | blockMapping
  | blockEnd
  | openSequence
  | closeSequence
  | openMapping
  | closeMapping
  | dash
  | comma
  | key
  | value
  | scalar (isPlain : Bool) (text : String)
  deriving DecidableEq, Repr, Inhabited

/-- A mark, or a place for those of a key. -/
inductive Entry where
  | mark (m : Mark)
  | place (marks : List Mark)
  deriving Repr, Inhabited

/-- The marks of an entry. -/
def Entry.marks : Entry → List Mark
  | .mark m => [m]
  | .place marks => marks

/-- Something that may be a key: the number of its place among the entries, and where it begins. It
is required where an entry of a block mapping has to begin. -/
structure KeyStart where
  place : Nat
  index : Nat
  line : Nat
  column : Nat
  isRequired : Bool
  deriving Repr, Inhabited

/-- A colon at some place is too far from where a key may have begun. -/
def KeyStart.isStale (k : KeyStart) (c : Cursor) : Bool :=
  k.line < c.line || k.index + 1024 < c.index

/-- A scanner in a document: where it is, what it has found, the columns of the open block
collections and a key that may have begun in each open flow collection, innermost first, and whether
a key may begin next. -/
structure Scanner where
  cursor : Cursor
  entries : Array Entry := #[]
  columns : List Nat := []
  keys : List (Option KeyStart) := [none]
  takesKey : Bool := true
  deriving Inhabited

namespace Scanner

/-- A flow collection is open. -/
def inFlow (s : Scanner) : Bool :=
  1 < s.keys.length

/-- The least column of what belongs into the innermost block collection. -/
def margin (s : Scanner) : Nat :=
  match s.columns with
  | [] => 0
  | column :: _ => column + 1

/-- Adds a mark. -/
def push (s : Scanner) (m : Mark) : Scanner :=
  { s with entries := s.entries.push (.mark m) }

/-- Passes gaps, comments and line ends before the next token. No tab may stand where a key of a
block mapping may begin. -/
def skipBlank : Nat → Scanner → Scanner
  | 0, s => s
  | fuel + 1, s =>
    let atMark := s.cursor.column = 0 ∧ s.cursor.sees isByteOrderMark
    let c := if atMark then s.cursor.skip 1 else s.cursor
    let c := c.skipWhile fun d => d == ' ' || (d == '\t' && (s.inFlow || !s.takesKey))
    let c := if c.sees (· == '#') then c.skipWhile (!isBreak ·) else c
    if c.sees isBreak then
      skipBlank fuel { s with cursor := c.nextLine.2, takesKey := s.takesKey || !s.inFlow }
    else { s with cursor := c }

/-- Gives up the keys that no colon can follow any more. -/
def dropStale? (s : Scanner) : Option Scanner :=
  let isStale (k : KeyStart) : Bool := k.isStale s.cursor
  if s.keys.any fun k => k.any fun k => isStale k && k.isRequired then none
  else some { s with keys := s.keys.map fun k => k.filter (!isStale ·) }

/-- Gives up the key that may have begun in the innermost collection. -/
def dropKey? (s : Scanner) : Option Scanner :=
  match s.keys with
  | some k :: rest => if k.isRequired then none else some { s with keys := none :: rest }
  | _ => some s

/-- Holds a place for a key that may begin here. -/
def holdKey? (s : Scanner) : Option Scanner :=
  if s.takesKey then do
    let s ← s.dropKey?
    let isRequired := !s.inFlow && s.columns.head? == some s.cursor.column
    let k : KeyStart :=
      ⟨s.entries.size, s.cursor.index, s.cursor.line, s.cursor.column, isRequired⟩
    return { s with entries := s.entries.push (.place []), keys := some k :: s.keys.tail }
  else some s

/-- Opens a block collection at a column that is further right than that of the innermost one. -/
def openBlock (s : Scanner) (column : Nat) (m : Mark) : Scanner :=
  if s.inFlow ∨ column < s.margin then s
  else { s.push m with columns := column :: s.columns }

/-- Closes the block collections whose entries begin further right than a column. -/
def closeBlocks (s : Scanner) (isOutside : Nat → Bool) : Scanner :=
  if s.inFlow then s
  else
    let closed := s.columns.takeWhile isOutside
    { s with
      entries := s.entries ++ closed.map fun _ => Entry.mark .blockEnd
      columns := s.columns.drop closed.length }

/-- Passes a token of some characters. -/
def pass (s : Scanner) (n : Nat) (m : Mark) : Scanner :=
  { s with cursor := s.cursor.skip n }.push m

/-- The sign of a document's start or end. -/
def boundary? (s : Scanner) (m : Mark) : Option Scanner := do
  let s ← (s.closeBlocks fun _ => true).dropKey?
  return { s.pass 3 m with takesKey := false }

/-- An opening bracket. -/
def openFlow? (s : Scanner) (m : Mark) : Option Scanner := do
  let s ← s.holdKey?
  return { s.pass 1 m with keys := none :: s.keys, takesKey := true }

/-- A closing bracket. -/
def closeFlow? (s : Scanner) (m : Mark) : Option Scanner := do
  let s ← s.dropKey?
  return { s.pass 1 m with keys := if s.inFlow then s.keys.tail else s.keys, takesKey := false }

/-- A comma. -/
def comma? (s : Scanner) : Option Scanner := do
  let s ← s.dropKey?
  return { s.pass 1 .comma with takesKey := true }

/-- A dash, which begins an item of a block sequence. -/
def dash? (s : Scanner) : Option Scanner := do
  if !s.inFlow ∧ !s.takesKey then none
  let s ← (s.openBlock s.cursor.column .blockSequence).dropKey?
  return { s.pass 1 .dash with takesKey := true }

/-- A question mark, which begins a key. -/
def key? (s : Scanner) : Option Scanner := do
  if !s.inFlow ∧ !s.takesKey then none
  let s ← (s.openBlock s.cursor.column .blockMapping).dropKey?
  return { s.pass 1 .key with takesKey := !s.inFlow }

/-- A colon. It makes what has been a possible key so far a key, and this may begin a block
mapping. -/
def value? (s : Scanner) : Option Scanner :=
  match s.keys with
  | some k :: rest =>
    let isFirst := !s.inFlow && decide (s.margin ≤ k.column)
    let marks : List Mark := if isFirst then [.blockMapping, .key] else [.key]
    some { s.pass 1 .value with
      entries := (s.entries.setIfInBounds k.place (.place marks)).push (.mark .value)
      columns := if isFirst then k.column :: s.columns else s.columns
      keys := none :: rest
      takesKey := false }
  | _ =>
    if !s.inFlow ∧ !s.takesKey then none
    else
      let s := s.openBlock s.cursor.column .blockMapping
      some { s.pass 1 .value with takesKey := !s.inFlow }

/-- A scalar that may be a key; `read` gives its text and the place after it, and whether a line
ended there. -/
def scalar? (s : Scanner) (isPlain : Bool)
    (read : Cursor → Option (List Char × Cursor × Bool)) : Option Scanner := do
  let s ← s.holdKey?
  let (text, c, isBroken) ← read s.cursor
  return { s.push (.scalar isPlain (String.ofList text)) with cursor := c, takesKey := isBroken }

/-- A quoted scalar. -/
def quoted? (s : Scanner) (quote : Char) : Option Scanner :=
  s.scalar? false fun c =>
    (quotedFrom? quote c.rest.length (c.skip 1)).map fun (text, c) => (text, c, false)

/-- A plain scalar. -/
def plain? (s : Scanner) : Option Scanner :=
  s.scalar? true fun c => plainFrom? s.inFlow s.margin c.rest.length {} c

/-- A block scalar, which is no key. -/
def block? (s : Scanner) : Option Scanner := do
  let s ← s.dropKey?
  let (text, c) ← Yaml.block? s.margin s.cursor
  return { s.push (.scalar false (String.ofList text)) with cursor := c, takesKey := true }

/-- A character that begins no plain scalar. -/
def isReserved (c : Char) : Bool :=
  isFlowMark c || c == '#' || c == '&' || c == '*' || c == '!' || c == '|' || c == '>' ||
    c == '%' || c == '@' || c == '\x60' || c == '-' || c == '?' || c == ':'

/-- Reads the next token, which begins with a character. -/
def token? (s : Scanner) (c : Char) : Option Scanner :=
  let isAlone := s.cursor.isApartAfter 1
  if s.cursor.column = 0 ∧ c = '%' then none
  else if s.cursor.isAtMarker '-' then s.boundary? .documentStart
  else if s.cursor.isAtMarker '.' then s.boundary? .documentEnd
  else if c = '[' then s.openFlow? .openSequence
  else if c = '\x7b' then s.openFlow? .openMapping
  else if c = ']' then s.closeFlow? .closeSequence
  else if c = '\x7d' then s.closeFlow? .closeMapping
  else if c = ',' then s.comma?
  else if c = '-' ∧ isAlone then s.dash?
  else if c = '?' ∧ (s.inFlow ∨ isAlone) then s.key?
  else if c = ':' ∧ (s.inFlow ∨ isAlone) then s.value?
  else if (c = '|' ∨ c = '>') ∧ !s.inFlow then s.block?
  else if c = '\'' ∨ c = '"' then s.quoted? c
  else if !isApart c ∧ !isReserved c ∨ c = '-' ∨ (c = '?' ∨ c = ':') ∧ !s.inFlow then s.plain?
  else none

/-- The end of the document: the block collections end. -/
def finish? (s : Scanner) : Option (List Mark) := do
  let s ← (s.closeBlocks fun _ => true).dropKey?
  return s.entries.toList.flatMap Entry.marks

/-- Reads tokens up to the end. Every step takes a character at least, so that `fuel` need not
exceed the number of characters by more than one. -/
def scanFrom? : Nat → Scanner → Option (List Mark)
  | 0, _ => none
  | fuel + 1, s => do
    let s ← (s.skipBlank (s.cursor.rest.length + 1)).dropStale?
    match s.cursor.rest with
    | [] => s.finish?
    | c :: _ => scanFrom? fuel (← (s.closeBlocks (s.cursor.column < ·)).token? c)

end Scanner

/-- The marks of a text. -/
def scan? (s : String) : Option (List Mark) :=
  let cs := s.toList
  if cs.all isPrintable then
    Scanner.scanFrom? (cs.length + 1) { cursor := { rest := cs } }
  else none

end Automation.Yaml
