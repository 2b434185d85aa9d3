import Automation.Script.Fault
import Automation.Text.Search
/-!
# Operators on values

What the operators of scripts compute. The operators between plain values are `primitive?`: they
need nothing but the values, so they may also be computed before a script runs. `binary` adds those
that build arrays, maps and texts of other values, and `assignBinary` is an operator joined with an
assignment, which may do more than the operator alone.
-/

namespace Automation.Script.Value

open Text

/-- Refuses a size that is too much. -/
def Size.within (size : Size) (limits : SizeLimits) : Except Fault Unit :=
  if exceeds size.bytes limits.string then .error (.tooLarge "Length of string")
  else if exceeds size.items limits.array then .error (.tooLarge "Size of array/BLOB")
  else if exceeds size.fields limits.map then .error (.tooLarge "Size of object map")
  else .ok ()

/-- A value, unless it holds too much. -/
def within (limits : SizeLimits) (v : Value) : Except Fault Value :=
  (v.size.within limits).map fun _ => v

/-- An integer, unless it overflows. -/
def checked (what : String) (a b : Int) (symbol : String) (n : Int) : Except Fault Value :=
  if fits n then .ok (.int n)
  else .error (.arithmetic (what ++ " overflow: " ++ String.ofList (integer a) ++ " " ++ symbol ++
    " " ++ String.ofList (integer b)))

/-- The operands of a failing division as messages show them. -/
def divisionText (what : String) (a b : Int) (symbol : String) : Fault :=
  .arithmetic (what ++ String.ofList (integer a) ++ " " ++ symbol ++ " " ++
    String.ofList (integer b))

/-- What a comparison makes of the order of two values. -/
def compared? (op : BinaryOp) (less equal greater : Bool) : Option Bool :=
  match op with
  | .equal => some equal
  | .unequal => some (!equal)
  | .less => some less
  | .lessEqual => some (less || equal)
  | .greater => some greater
  | .greaterEqual => some (greater || equal)
  | _ => none

/-- A comparison of values whose types are not related: they are unequal, and neither is less. -/
def unrelated? (op : BinaryOp) : Option Bool :=
  compared? op false false false

/-- An operator on integers: overflows and divisions by zero are faults, and division truncates. -/
def intBinary (op : BinaryOp) (a b : Int) : Except Fault Value :=
  match op with
  | .add => checked "Addition" a b "+" (a + b)
  | .sub => checked "Subtraction" a b "-" (a - b)
  | .mul => checked "Multiplication" a b "*" (a * b)
  | .div =>
    if b = 0 then .error (divisionText "Division by zero: " a b "/")
    else checked "Division" a b "/" (a.tdiv b)
  | .rem =>
    if b = 0 ∨ (a = minInt ∧ b = -1) then
      .error (divisionText "Modulo division by zero or overflow: " a b "%")
    else .ok (.int (a.tmod b))
  | .range => .ok (.range a b false)
  | .rangeInclusive => .ok (.range a b true)
  | _ => .ok (.bool ((compared? op (a < b) (a == b) (a > b)).getD false))

/-- An operator on doubles; there are no ranges of doubles. -/
def floatBinary? (op : BinaryOp) (a b : Double) : Option Value :=
  match op with
  | .add => some (.float (a.add b))
  | .sub => some (.float (a.sub b))
  | .mul => some (.float (a.mul b))
  | .div => some (.float (a.div b))
  | .rem => some (.float (a.rem b))
  | _ => (compared? op (a.less b) (a.equal b) (b.less a)).map .bool

/-- Two texts joined; a text that is made longer may be too long. -/
def joined (limits : SizeLimits) (a b : String) : Except Fault Value :=
  let size := a.utf8ByteSize + b.utf8ByteSize
  if !a.isEmpty && !b.isEmpty && exceeds size limits.string then
    .error (.tooLarge "Length of string")
  else .ok (.string (a ++ b))

/-- A text without the places where another one stands. -/
def without (a b : String) : String :=
  String.ofList (pieces b.toList a.toList).flatten

/-- The text of a character or a string. -/
def asText? : Value → Option String
  | .string s => some s
  | .char c => some (String.singleton c)
  | _ => none

/-- An operator on two texts. -/
def textBinary? (limits : SizeLimits) (op : BinaryOp) (a b : String) :
    Option (Except Fault Value) :=
  match op with
  | .add => some (joined limits a b)
  | .sub => some (.ok (.string (without a b)))
  | _ => (compared? op (Text.before a b) (a == b) (Text.before b a)).map fun r => .ok (.bool r)

/-- Two values of one type. -/
def sameType (a b : Value) : Bool :=
  a.typeName == b.typeName

/-- An operator that needs nothing but two plain values. Values of different types are unequal, and
neither is less. -/
def primitive? (limits : SizeLimits) (op : BinaryOp) (a b : Value) : Option (Except Fault Value) :=
  match a, b with
  | .int x, .int y => some (intBinary op x y)
  | .bool x, .bool y => (compared? op (!x && y) (x == y) (x && !y)).map fun r => .ok (.bool r)
  | .unit, .unit => (compared? op false true false).map fun r => .ok (.bool (r && op == .equal))
  | .unit, .string _ =>
    if op = .add then some (.ok b) else (unrelated? op).map fun r => .ok (.bool r)
  | .string _, .unit =>
    if op = .add then some (.ok a) else (unrelated? op).map fun r => .ok (.bool r)
  | .char _, .string _ | .char _, .char _ =>
    if op = .sub then none
    else (asText? a).bind fun x => (asText? b).bind fun y => textBinary? limits op x y
  | .string x, .string y => textBinary? limits op x y
  | .string x, .char y => textBinary? limits op x (String.singleton y)
  | _, _ =>
    match bothFloats? a b with
    | some (x, y) => (floatBinary? op x y).map .ok
    | none => if sameType a b then none else (unrelated? op).map fun r => .ok (.bool r)

/-- The fields of two maps; where both have a field, that of the second. -/
def merged (fields more : List (String × Value)) : List (String × Value) :=
  more.foldl (fun fields (name, v) => Fields.insert name v fields) fields

/-- What an operator makes of two values. Booleans have no order while a script runs. -/
def binary (limits : SizeLimits) (op : BinaryOp) (a b : Value) : Except Fault Value :=
  match a, b, op with
  | .bool _, .bool _, .less | .bool _, .bool _, .lessEqual | .bool _, .bool _, .greater
  | .bool _, .bool _, .greaterEqual => .ok (.bool false)
  | _, _, _ =>
    match primitive? limits op a b with
    | some r => r
    | none =>
      match op, a, b with
      | .add, .array xs, .array ys => within limits (.array (xs ++ ys))
      | .add, .map xs, .map ys => within limits (.map (merged xs ys))
      | .add, .string s, v => within limits (.string (s ++ String.ofList v.show_))
      | .add, v, .string s => within limits (.string (String.ofList v.show_ ++ s))
      | .equal, .array _, .array _ | .equal, .map _, .map _ | .equal, .range .., .range .. =>
        .ok (.bool (equal a b))
      | .unequal, .array _, .array _ | .unequal, .map _, .map _ | .unequal, .range .., .range .. =>
        .ok (.bool (!equal a b))
      | _, _, _ => .error (.unknownFunction (signature op.symbol [a, b]))

/-- What an operator joined with an assignment makes of the value before and the operand. An array
takes another array's items, and any other value as one item. -/
def assignBinary (limits : SizeLimits) (op : BinaryOp) (a b : Value) : Except Fault Value :=
  match op, a, b with
  | .add, .array [], .array ys => .ok (.array ys)
  | .add, .array xs, .array [] => .ok (.array xs)
  | .add, .array xs, .array ys => (within limits (.array xs)).map fun _ => .array (xs ++ ys)
  | .add, .array xs, v => within limits (.array (xs ++ [v]))
  | _, _, _ => binary limits op a b

/-- What an operator makes of one value. -/
def unary (op : UnaryOp) (v : Value) : Except Fault Value :=
  match op, v with
  | .negate, .int n =>
    if fits (-n) then .ok (.int (-n))
    else .error (.arithmetic ("Negation overflow: -" ++ String.ofList (integer n)))
  | .negate, .float d => .ok (.float d.neg)
  | .affirm, .int _ | .affirm, .float _ => .ok v
  | .invert, .bool b => .ok (.bool !b)
  | _, _ => .error (.unknownFunction (signature op.symbol [v]))

/-- The boolean of a value. -/
def asBool : Value → Except Fault Bool
  | .bool b => .ok b
  | v => .error (.wrongType v.typeName "bool")

end Automation.Script.Value
