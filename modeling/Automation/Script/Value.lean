import Automation.Double.Arithmetic
import Automation.Double.Decimal
import Automation.Fields
import Automation.Json.Text
import Automation.Text.Quoted
import Automation.Text.Utf8
/-!
# Values of scripts

Scripts compute with integers of 64 bits, doubles, booleans, characters, strings, arrays and maps.
Function pointers and ranges are values too, but have no JSON counterpart. The fields of maps are
kept in order of their names.
-/

namespace Automation.Script

open Text

/-- A value of a script. -/
inductive Value where
  | unit
  | bool (value : Bool)
  | int (value : Int)
  | float (value : Double)
  | char (value : Char)
  | string (value : String)
  | array (items : List Value)
  | map (fields : List (String × Value))
  | function (name : String)
  | range (low high : Int) (inclusive : Bool)
  deriving Inhabited

/-- The largest sizes of strings in bytes, of arrays and of maps; zero sets no limit. -/
structure SizeLimits where
  string : Nat
  array : Nat
  map : Nat
  deriving DecidableEq, Repr, Inhabited

/-- A size is beyond a limit. -/
def exceeds (size limit : Nat) : Bool :=
  limit != 0 && size > limit

namespace Value

/-- The name of a value's type in messages. -/
def typeName : Value → String
  | .unit => "()"
  | .bool _ => "bool"
  | .int _ => "i64"
  | .float _ => "f64"
  | .char _ => "char"
  | .string _ => "string"
  | .array _ => "array"
  | .map _ => "map"
  | .function _ => "Fn"
  | .range _ _ false => "Range<i64>"
  | .range _ _ true => "RangeInclusive<i64>"

/-- The type of an argument as a message about a missing function shows it: a string could be taken
in three ways. -/
def argumentType : Value → String
  | .string _ => "&str | ImmutableString | String"
  | v => v.typeName

/-- A call as a message about a missing function shows it. -/
def signature (name : String) (arguments : List Value) : String :=
  name ++ " (" ++ ", ".intercalate (arguments.map argumentType) ++ ")"

/-- The least integer of a script. -/
def minInt : Int := -(Nat.pow 2 63 : Nat)

/-- The largest integer of a script. -/
def maxInt : Int := (Nat.pow 2 63 : Nat) - 1

/-- An integer that fits into 64 bits. -/
def fits (n : Int) : Bool :=
  minInt ≤ n && n ≤ maxInt

mutual

/-- The value of a JSON value. An integer too large for 64 bits with a sign becomes a double. -/
def ofJson : Json → Value
  | .null => .unit
  | .bool b => .bool b
  | .number (.int n) => if fits n then .int n else .float (Double.ofInt n)
  | .number (.double d) => .float d
  | .string s => .string s
  | .array items => .array (ofItems items)
  | .object fields => .map (ofFields fields)

/-- The values of the items of an array. -/
def ofItems : List Json → List Value
  | [] => []
  | item :: rest => ofJson item :: ofItems rest

/-- The values of the fields of an object. -/
def ofFields : List (String × Json) → List (String × Value)
  | [] => []
  | (name, value) :: rest => (name, ofJson value) :: ofFields rest

end

mutual

/-- The JSON value of a value, or the type that has none. A double that is not finite becomes null,
and a map becomes an object into which its fields are put one by one. -/
def toJson : Value → Except String Json
  | .unit => .ok .null
  | .bool b => .ok (.bool b)
  | .int n => .ok (.int n)
  | .float d => .ok (if d.isFinite then .number (.double d) else .null)
  | .char c => .ok (.string (String.singleton c))
  | .string s => .ok (.string s)
  | .array items => Json.array <$> toItems items
  | .map fields => (Json.object ∘ Fields.ofList) <$> toFields fields
  | v => .error v.typeName

/-- The JSON values of the items of an array. -/
def toItems : List Value → Except String (List Json)
  | [] => .ok []
  | item :: rest => do
    let first ← toJson item
    return first :: (← toItems rest)

/-- The JSON values of the fields of a map. -/
def toFields : List (String × Value) → Except String (List (String × Json))
  | [] => .ok []
  | (name, value) :: rest => do
    let first ← toJson value
    return (name, first) :: (← toFields rest)

end

/-- The largest magnitude that is written without an exponent: `10 ^ 13` with 24 binary digits. -/
def plainHigh : Double := Double.ofDecimal false 9999999827968 0

/-- The least magnitude other than zero that is written without an exponent: `10 ^ -13` with 24
binary digits. -/
def plainLow : Double := Double.ofDecimal false 99999998245167 (-27)

/-- The words for the doubles that are no numbers. -/
def wordText? (d : Double) : Option (List Char) :=
  if d.isNaN then some ['N', 'a', 'N']
  else if !d.isFinite then some (d.signText ++ ['i', 'n', 'f'])
  else none

/-- The text of a double by itself: positional between `plainLow` and `plainHigh`, where a whole
number keeps its point, and with an exponent elsewhere. -/
def floatText (d : Double) : List Char :=
  (wordText? d).getD <|
    if d.isZero then ['0', '.', '0']
    else
      let magnitude := if d.isNegative then d.neg else d
      d.signText ++
        (if plainHigh.less magnitude ∨ magnitude.less plainLow then d.shortest.withExponent false
        else d.shortest.pointed)

/-- The text of a double inside a container: positional from `10 ^ -4` up to `10 ^ 16`. -/
def floatInspect (d : Double) : List Char :=
  (wordText? d).getD <|
    let e := d.shortest.scientific.2
    d.signText ++
      (if !d.isZero ∧ (e < -4 ∨ e ≥ 16) then d.shortest.withExponent false
      else d.shortest.pointed)

/-- The character in quotes. -/
def quotedChar (c : Char) : List Char :=
  if c = '\'' then ['\'', '\\', '\'', '\'']
  else if c = '"' then ['\'', '"', '\'']
  else '\'' :: (showChar c ++ ['\''])

mutual

/-- The characters that a value shows inside a container. -/
def inspect : Value → List Char
  | .unit => ['(', ')']
  | .bool true => ['t', 'r', 'u', 'e']
  | .bool false => ['f', 'a', 'l', 's', 'e']
  | .int n => integer n
  | .float d => floatInspect d
  | .char c => quotedChar c
  | .string s => (quoted s).toList
  | .array items => '[' :: (inspectItems items ++ [']'])
  | .map fields => '#' :: '\x7b' :: (inspectFields fields ++ ['\x7d'])
  | .function name => "Fn(".toList ++ name.toList ++ [')']
  | .range low high inclusive =>
    integer low ++ (if inclusive then "..=".toList else "..".toList) ++ integer high

/-- The items of an array, with commas between them. -/
def inspectItems : List Value → List Char
  | [] => []
  | [item] => inspect item
  | item :: rest => inspect item ++ ',' :: ' ' :: inspectItems rest

/-- The fields of a map, with commas between them. -/
def inspectFields : List (String × Value) → List Char
  | [] => []
  | [(name, value)] => (quoted name).toList ++ ':' :: ' ' :: inspect value
  | (name, value) :: rest =>
    (quoted name).toList ++ ':' :: ' ' :: (inspect value ++ ',' :: ' ' :: inspectFields rest)

end

/-- The characters that a value adds to a string or to a message. -/
def show_ : Value → List Char
  | .unit => []
  | .float d => floatText d
  | .string s => s.toList
  | .char c => [c]
  | v => inspect v

/-- The two numbers as doubles, if both are numbers. -/
def bothFloats? : Value → Value → Option (Double × Double)
  | .int a, .float b => some (Double.ofInt a, b)
  | .float a, .int b => some (a, Double.ofInt b)
  | .float a, .float b => some (a, b)
  | _, _ => none

mutual

/-- Equality of values; numbers of the two kinds are compared as doubles, and values of unrelated
types are different. -/
def equal : Value → Value → Bool
  | .unit, .unit => true
  | .bool a, .bool b => a == b
  | .int a, .int b => a == b
  | .int a, .float b => (Double.ofInt a).equal b
  | .float a, .int b => a.equal (Double.ofInt b)
  | .float a, .float b => a.equal b
  | .char a, .char b => a == b
  | .string a, .string b => a == b
  | .char a, .string b => String.singleton a == b
  | .string a, .char b => a == String.singleton b
  | .array as, .array bs => equalItems as bs
  | .map as, .map bs => equalFields as bs
  | .function a, .function b => a == b
  | .range a b c, .range d e f => a == d && b == e && c == f
  | _, _ => false

/-- Equality of the items of arrays. -/
def equalItems : List Value → List Value → Bool
  | [], [] => true
  | a :: as, b :: bs => equal a b && equalItems as bs
  | _, _ => false

/-- Equality of the fields of maps. -/
def equalFields : List (String × Value) → List (String × Value) → Bool
  | [], [] => true
  | (k, a) :: as, (l, b) :: bs => k == l && equal a b && equalFields as bs
  | _, _ => false

end

/-- How much a value holds: items of arrays, fields of maps and bytes of strings, with those of the
values inside. -/
structure Size where
  items : Nat
  fields : Nat
  bytes : Nat

/-- The sum of two sizes. -/
def Size.plus (a b : Size) : Size :=
  ⟨a.items + b.items, a.fields + b.fields, a.bytes + b.bytes⟩

mutual

/-- The size of a value. -/
def size : Value → Size
  | .string s => ⟨0, 0, s.utf8ByteSize⟩
  | .array items => sizeItems items
  | .map fields => sizeFields fields
  | _ => ⟨0, 0, 0⟩

/-- The size of the items of an array, each of which counts as one. -/
def sizeItems : List Value → Size
  | [] => ⟨0, 0, 0⟩
  | item :: rest => ((size item).plus ⟨1, 0, 0⟩).plus (sizeItems rest)

/-- The size of the fields of a map, each of which counts as one. -/
def sizeFields : List (String × Value) → Size
  | [] => ⟨0, 0, 0⟩
  | (_, value) :: rest => ((size value).plus ⟨0, 1, 0⟩).plus (sizeFields rest)

end

end Value

end Automation.Script
