/-!
# UTF-8

`Utf8.encode` writes characters as bytes and `Utf8.decode` reads them back. Bytes that are no
well-formed UTF-8 give a fault that says where the first ill-formed sequence starts and, unless the
bytes merely end too early, how many bytes it spans.
-/

namespace Automation.Utf8

/-- Why bytes are no UTF-8: a sequence cut short by the end of the bytes, or an ill-formed sequence
of `length` bytes; `start` counts the bytes before it. -/
inductive Fault where
  | incomplete (start : Nat)
  | illFormed (length start : Nat)
  deriving DecidableEq, Repr

/-- The bytes of one character. -/
def encodeChar (c : Char) : List Nat :=
  let n := c.toNat
  if n < 0x80 then [n]
  else if n < 0x800 then [0xC0 + n / 64, 0x80 + n % 64]
  else if n < 0x10000 then [0xE0 + n / 4096, 0x80 + n / 64 % 64, 0x80 + n % 64]
  else [0xF0 + n / 262144, 0x80 + n / 4096 % 64, 0x80 + n / 64 % 64, 0x80 + n % 64]

/-- The bytes of a text. -/
def encode (cs : List Char) : List Nat :=
  cs.flatMap encodeChar

/-- A byte between two bounds. -/
def isWithin (low high b : Nat) : Bool :=
  low ≤ b && b ≤ high

/-- The range of the byte that follows a lead byte of a sequence of three. -/
def secondOfThree (lead : Nat) : Nat × Nat :=
  if lead == 0xE0 then (0xA0, 0xBF) else if lead == 0xED then (0x80, 0x9F) else (0x80, 0xBF)

/-- The range of the byte that follows a lead byte of a sequence of four. -/
def secondOfFour (lead : Nat) : Nat × Nat :=
  if lead == 0xF0 then (0x90, 0xBF) else if lead == 0xF4 then (0x80, 0x8F) else (0x80, 0xBF)

/-- The first character of `bytes` and how many bytes it takes, or the fault at offset `start`. -/
def decodeFirst (start : Nat) (lead : Nat) (rest : List Nat) : Except Fault (Char × Nat) :=
  if lead < 0x80 then .ok (Char.ofNat lead, 1)
  else if isWithin 0xC2 0xDF lead then
    match rest with
    | [] => .error (.incomplete start)
    | b :: _ =>
      if isWithin 0x80 0xBF b then .ok (Char.ofNat ((lead - 0xC0) * 64 + (b - 0x80)), 2)
      else .error (.illFormed 1 start)
  else if isWithin 0xE0 0xEF lead then
    let (low, high) := secondOfThree lead
    match rest with
    | [] => .error (.incomplete start)
    | b :: rest =>
      if !isWithin low high b then .error (.illFormed 1 start) else
      match rest with
      | [] => .error (.incomplete start)
      | c :: _ =>
        if isWithin 0x80 0xBF c then
          .ok (Char.ofNat ((lead - 0xE0) * 4096 + (b - 0x80) * 64 + (c - 0x80)), 3)
        else .error (.illFormed 2 start)
  else if isWithin 0xF0 0xF4 lead then
    let (low, high) := secondOfFour lead
    match rest with
    | [] => .error (.incomplete start)
    | b :: rest =>
      if !isWithin low high b then .error (.illFormed 1 start) else
      match rest with
      | [] => .error (.incomplete start)
      | c :: rest =>
        if !isWithin 0x80 0xBF c then .error (.illFormed 2 start) else
        match rest with
        | [] => .error (.incomplete start)
        | d :: _ =>
          if isWithin 0x80 0xBF d then
            .ok (Char.ofNat ((lead - 0xF0) * 262144 + (b - 0x80) * 4096 + (c - 0x80) * 64 +
              (d - 0x80)), 4)
          else .error (.illFormed 3 start)
  else .error (.illFormed 1 start)

/-- Reads bytes from offset `start` on; `skip` bytes belong to the character before. -/
def decodeFrom (start : Nat) : Nat → List Nat → Except Fault (List Char)
  | _, [] => .ok []
  | skip + 1, _ :: rest => decodeFrom (start + 1) skip rest
  | 0, lead :: rest => do
    let (c, width) ← decodeFirst start lead rest
    return c :: (← decodeFrom (start + 1) (width - 1) rest)

/-- The characters of well-formed bytes. -/
def decode (bytes : List Nat) : Except Fault (List Char) :=
  decodeFrom 0 0 bytes

/-- The wording of a fault. -/
def Fault.message : Fault → String
  | .incomplete start => s!"incomplete utf-8 byte sequence from index {start}"
  | .illFormed length start => s!"invalid utf-8 sequence of {length} bytes from index {start}"

end Automation.Utf8
