/-!
# Base64

The standard alphabet with canonical padding: `Base64.encode` writes bytes, and `Base64.decode`
reads exactly the texts that `encode` writes. Other texts are refused with the first fault found
from left to right.
-/

namespace Automation.Base64

/-- Why a text is no canonical base64. Symbols are byte values and offsets count bytes. -/
inductive Fault where
  | symbol (value offset : Nat)
  | length (count : Nat)
  | lastSymbol (value offset : Nat)
  | padding
  deriving DecidableEq, Repr

/-- The symbol of a six-bit number. -/
def symbol (n : Nat) : Nat :=
  if n < 26 then 65 + n
  else if n < 52 then 71 + n
  else if n < 62 then n - 4
  else if n = 62 then 43
  else 47

/-- The six-bit number of a symbol. -/
def value? (b : Nat) : Option Nat :=
  if 65 ≤ b ∧ b ≤ 90 then some (b - 65)
  else if 97 ≤ b ∧ b ≤ 122 then some (b - 71)
  else if 48 ≤ b ∧ b ≤ 57 then some (b + 4)
  else if b = 43 then some 62
  else if b = 47 then some 63
  else none

/-- The padding symbol. -/
def pad : Nat := 61

/-- Writes bytes, three at a time, as groups of four symbols. -/
def encode : List Nat → List Nat
  | [] => []
  | [a] => [symbol (a / 4), symbol (a % 4 * 16), pad, pad]
  | [a, b] => [symbol (a / 4), symbol (a % 4 * 16 + b / 16), symbol (b % 16 * 4), pad]
  | a :: b :: c :: rest =>
    symbol (a / 4) :: symbol (a % 4 * 16 + b / 16) :: symbol (b % 16 * 4 + c / 64) ::
      symbol (c % 64) :: encode rest

/-- The numbers of the symbols that start at `offset`, or the fault of the first byte that is no
symbol. -/
def values (offset : Nat) : List Nat → Except Fault (List Nat)
  | [] => .ok []
  | b :: rest =>
    match value? b with
    | some v => (v :: ·) <$> values (offset + 1) rest
    | none => .error (.symbol b offset)

/-- Reads the last group, of at most four bytes, which may end in padding. -/
def decodeLast (offset : Nat) (group : List Nat) : Except Fault (List Nat) := do
  let symbols := group.takeWhile (· != pad)
  let padding := group.dropWhile (· != pad)
  let vs ← values offset symbols
  if padding ≠ [] ∧ (symbols.length < 2 ∨ padding.any (· != pad)) then
    throw (.symbol pad (offset + symbols.length))
  if symbols.length < 2 then throw (.length (offset + symbols.length))
  if group.length ≠ 4 then throw .padding
  match vs with
  | [v, w] =>
    if w % 16 = 0 then return [v * 4 + w / 16]
    else throw (.lastSymbol (symbol w) (offset + 1))
  | [v, w, x] =>
    if x % 4 = 0 then return [v * 4 + w / 16, w % 16 * 16 + x / 4]
    else throw (.lastSymbol (symbol x) (offset + 2))
  | [v, w, x, y] => return [v * 4 + w / 16, w % 16 * 16 + x / 4, x % 4 * 64 + y]
  | _ => return []

/-- Reads groups of four symbols; the last group, which starts when at most four bytes are left,
may hold padding. -/
def decodeFrom (offset : Nat) : List Nat → Except Fault (List Nat)
  | a :: b :: c :: d :: e :: rest => do
    let head ← match ← values offset [a, b, c, d] with
      | [v, w, x, y] => pure [v * 4 + w / 16, w % 16 * 16 + x / 4, x % 4 * 64 + y]
      | _ => pure []
    return head ++ (← decodeFrom (offset + 4) (e :: rest))
  | [] => .ok []
  | group => decodeLast offset group

/-- The bytes of a canonical base64 text. A single byte after the last full group that is neither
symbol nor padding is reported first. -/
def decode (text : List Nat) : Except Fault (List Nat) :=
  match text.getLast? with
  | some last =>
    if text.length % 4 = 1 ∧ last ≠ pad ∧ (value? last).isNone then
      .error (.symbol last (text.length - 1))
    else decodeFrom 0 text
  | none => .ok []

/-- The wording of a fault. -/
def Fault.message : Fault → String
  | .symbol value offset => s!"Invalid symbol {value}, offset {offset}."
  | .length count => s!"Invalid input length: {count}"
  | .lastSymbol value offset => s!"Invalid last symbol {value}, offset {offset}."
  | .padding => "Invalid padding"

end Automation.Base64
