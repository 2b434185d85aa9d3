import Automation.Json.Reader
import Automation.Yaml.Cursor
/-!
# Scalars of a document

Plain, quoted and block scalars. A plain or quoted scalar may go on over several lines: the gaps
around a line end are dropped, one line end is read as a space and further ones as themselves
(`Between.text`). A block scalar keeps its lines, whose common indentation is dropped.
-/

namespace Automation.Yaml

/-- What stands between two words of a scalar: gaps, or line ends. A line end that is escaped breaks
the line without being a `first` one. -/
structure Between where
  gaps : List Char := []
  isBroken : Bool := false
  first : Option Char := none
  more : List Char := []
  deriving DecidableEq, Repr, Inhabited

/-- The text that stands for what is between two words. -/
def Between.text (b : Between) : List Char :=
  if !b.isBroken then b.gaps
  else if b.first == some '\n' then if b.more.isEmpty then [' '] else b.more
  else b.first.toList ++ b.more

/-- Reads what is between two words. On a line after the first one no tab may stand before the
margin. -/
def between? (margin : Nat) : Nat → Between → Cursor → Option (Between × Cursor)
  | 0, b, c => some (b, c)
  | fuel + 1, b, c =>
    match c.rest with
    | [] => some (b, c)
    | d :: _ =>
      if isGap d then
        if !b.isBroken then between? margin fuel { b with gaps := b.gaps ++ [d] } (c.skip 1)
        else if d = '\t' ∧ c.column < margin then none
        else between? margin fuel b (c.skip 1)
      else if isBreak d then
        let (e, c) := c.nextLine
        if !b.isBroken then
          between? margin fuel { gaps := [], isBroken := true, first := some e } c
        else between? margin fuel { b with more := b.more ++ [e] } c
      else some (b, c)

/-- A character that separates the parts of a flow collection. -/
def isFlowMark (c : Char) : Bool :=
  c == ',' || c == '[' || c == ']' || c == '\x7b' || c == '\x7d'

/-- The characters of a word of a plain scalar. In a flow collection no separator or question mark
may follow a colon. -/
def plainWord? (inFlow : Bool) : List Char → Option (List Char)
  | [] => some []
  | c :: cs =>
    if isApart c ∨ (c = ':' ∧ cs.head?.all isApart) ∨ (inFlow ∧ isFlowMark c) then some []
    else if c = ':' ∧ inFlow ∧ cs.head?.any (fun d => isFlowMark d || d == '?') then none
    else (plainWord? inFlow cs).map (c :: ·)

/-- The rest of a plain scalar: its text, the place after it and the gaps that follow it, and
whether a line ended there. -/
def plainFrom? (inFlow : Bool) (margin : Nat) :
    Nat → Between → Cursor → Option (List Char × Cursor × Bool)
  | 0, _, _ => none
  | fuel + 1, b, c => do
    if c.isAtBoundary ∨ c.sees (· == '#') then return ([], c, b.isBroken)
    let word ← plainWord? inFlow c.rest
    if word.isEmpty then return ([], c, b.isBroken)
    let (next, after) ← between? margin c.rest.length {} (c.skip word.length)
    let text := b.text ++ word
    if next = {} then return (text, after, false)
    else if !inFlow ∧ after.column < margin then return (text, after, next.isBroken)
    else
      let (more, last, isBroken) ← plainFrom? inFlow margin fuel next after
      return (text ++ more, last, isBroken)

/-- The character of a code point. -/
def charOf? (n : Nat) : Option Char :=
  if n < 0xD800 ∨ (0xE000 ≤ n ∧ n < 0x110000) then some (Char.ofNat n) else none

/-- The character that an escape of one letter stands for. -/
def unescape? (c : Char) : Option Char :=
  match c with
  | '0' => some (Char.ofNat 0)
  | 'a' => some (Char.ofNat 7)
  | 'b' => some (Char.ofNat 8)
  | 't' => some '\t'
  | '\t' => some '\t'
  | 'n' => some '\n'
  | 'v' => some (Char.ofNat 11)
  | 'f' => some (Char.ofNat 12)
  | 'r' => some '\r'
  | 'e' => some (Char.ofNat 27)
  | ' ' => some ' '
  | '"' => some '"'
  | '/' => some '/'
  | '\\' => some '\\'
  | 'N' => some (Char.ofNat 0x85)
  | '_' => some (Char.ofNat 0xA0)
  | 'L' => some (Char.ofNat 0x2028)
  | 'P' => some (Char.ofNat 0x2029)
  | _ => none

/-- The number of hexadecimal digits after the letter of an escape. -/
def escapeWidth? (c : Char) : Option Nat :=
  match c with
  | 'x' => some 2
  | 'u' => some 4
  | 'U' => some 8
  | _ => none

/-- The number that so many hexadecimal digits at the front spell. -/
def hexNumber? (width : Nat) (cs : List Char) : Option Nat :=
  let ds := cs.take width
  if ds.length = width then
    ds.foldlM (fun n c => (Json.hexValue? c).map fun d => 16 * n + d) 0
  else none

/-- The character of an escape after its backslash, and the number of characters it takes. -/
def escape? : List Char → Option (Char × Nat)
  | [] => none
  | c :: cs =>
    match escapeWidth? c with
    | some width => do return (← (hexNumber? width cs).bind charOf?, width + 1)
    | none => (unescape? c).map fun e => (e, 1)

/-- A word of a quoted scalar: its text, the place after it, and whether it ends in an escaped line
end. -/
def quotedWord? (quote : Char) : Nat → Cursor → Option (List Char × Cursor × Bool)
  | 0, c => some ([], c, false)
  | fuel + 1, c =>
    let ahead (d : Char) (n : Nat) : Option (List Char × Cursor × Bool) :=
      (quotedWord? quote fuel (c.skip n)).map fun (text, last, isEscaped) =>
        (d :: text, last, isEscaped)
    match c.rest with
    | [] => some ([], c, false)
    | d :: rest =>
      if isApart d then some ([], c, false)
      else if d = quote then
        if quote = '\'' ∧ rest.head? = some '\'' then ahead '\'' 2 else some ([], c, false)
      else if d = '\\' ∧ quote = '"' then
        if c.seesSecond isBreak then some ([], (c.skip 1).nextLine.2, true)
        else do
          let (e, width) ← escape? rest
          ahead e (width + 1)
      else ahead d 1

/-- A quoted scalar after its opening quote, and the place after the closing one. -/
def quotedFrom? (quote : Char) : Nat → Cursor → Option (List Char × Cursor)
  | 0, _ => none
  | fuel + 1, c => do
    if c.isAtBoundary ∨ c.isAtEnd then none
    let (word, c, isEscaped) ← quotedWord? quote c.rest.length c
    if c.sees (· == quote) then return (word, c.skip 1)
    let (b, c) ← between? 0 c.rest.length { isBroken := isEscaped } c
    let (more, c) ← quotedFrom? quote fuel c
    return (word ++ b.text ++ more, c)

/-- What is kept of the line ends after the last line of a block scalar. -/
inductive Chomping where
  | strip
  | clip
  | keep
  deriving DecidableEq, Repr

/-- The header of a block scalar after its sign: a chomping sign and a digit for the indentation, in
any order, and the number of characters they take. -/
def blockHeader : List Char → Chomping × Nat × Nat
  | c :: cs =>
    let chomping (c : Char) : Option Chomping :=
      if c = '+' then some .keep else if c = '-' then some .strip else none
    match chomping c, Text.digitValue? c with
    | some chomp, _ =>
      match cs.head?.bind Text.digitValue? with
      | some d => (chomp, d, 2)
      | none => (chomp, 0, 1)
    | none, some d =>
      match cs.head?.bind chomping with
      | some chomp => (chomp, d, 2)
      | none => (.clip, d, 1)
    | none, none => (.clip, 0, 0)
  | [] => (.clip, 0, 0)

/-- The empty lines before a line of a block scalar: the line ends, the place where text begins, and
the deepest column reached. An indentation of zero is not known yet. -/
def blockGap? (indent : Nat) :
    Nat → List Char → Nat → Cursor → Option (List Char × Nat × Cursor)
  | 0, _, _, _ => none
  | fuel + 1, ends, deepest, c =>
    let spaces := (c.rest.takeWhile (· == ' ')).length
    let c := c.skip (if indent = 0 then spaces else min spaces (indent - c.column))
    let deepest := max deepest c.column
    if (indent = 0 ∨ c.column < indent) ∧ c.sees (· == '\t') then none
    else if c.sees isBreak then
      let (e, c) := c.nextLine
      blockGap? indent fuel (ends ++ [e]) deepest c
    else some (ends, deepest, c)

/-- What joins a line of a block scalar to the one before it. Folding reads one line end between two
lines that begin with no gap as a space. -/
def blockJoin (isFolded afterGap beforeGap : Bool) (last : Option Char) (ends : List Char) :
    List Char :=
  if isFolded ∧ last = some '\n' ∧ !afterGap ∧ !beforeGap then
    if ends.isEmpty then [' '] else ends
  else last.toList ++ ends

/-- The lines of a block scalar from some place on: their text, and the place after them. `last` is
the end of the line before, `ends` the empty lines after it. -/
def blockLines? (isFolded : Bool) (chomping : Chomping) (indent : Nat) :
    Nat → Bool → Option Char → List Char → Cursor → Option (List Char × Cursor)
  | 0, _, _, _, _ => none
  | fuel + 1, afterGap, last, ends, c =>
    if c.column = indent ∧ !c.isAtEnd then do
      let beforeGap := c.sees isGap
      let line := c.rest.takeWhile (!isBreak ·)
      let c' := c.skip line.length
      let (last', start) : Option Char × Cursor :=
        if c'.isAtEnd then (none, c') else let (e, c) := c'.nextLine; (some e, c)
      let (ends', _, start) ← blockGap? indent (start.rest.length + 1) [] 0 start
      let (more, after) ← blockLines? isFolded chomping indent fuel beforeGap last' ends' start
      return (blockJoin isFolded afterGap beforeGap last ends ++ line ++ more, after)
    else
      let kept := match chomping with
        | .strip => []
        | .clip => last.toList
        | .keep => last.toList ++ ends
      some (kept, c)

/-- A block scalar from its sign on; `margin` is the least column of its lines. -/
def block? (margin : Nat) (c : Cursor) : Option (List Char × Cursor) := do
  let isFolded := c.sees (· == '>')
  let (chomping, digit, width) := blockHeader c.rest.tail
  if 0 < width ∧ digit = 0 ∧ (c.rest.tail.take width).contains '0' then none
  let c := (c.skip (width + 1)).skipWhile isGap
  let c := if c.sees (· == '#') then c.skipWhile (!isBreak ·) else c
  if !c.isAtEnd ∧ !c.sees isBreak then none
  let c := if c.isAtEnd then c else c.nextLine.2
  let fuel := c.rest.length + 1
  let given := if digit = 0 then 0 else margin - 1 + digit
  let (ends, deepest, c) ← blockGap? given fuel [] 0 c
  let indent := if given = 0 then max (max deepest margin) 1 else given
  blockLines? isFolded chomping indent fuel false none ends c

end Automation.Yaml
