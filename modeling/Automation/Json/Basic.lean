import Automation.Double.Basic
/-!
# JSON values

A JSON number is an integer or a double, and the two kinds never equal each other. The fields of an
object are kept in ascending order of their names, each name once: `Automation.Fields` holds the
operations that keep this order. `Json.same` is equality of values; it differs from `=` only in that
the two zeros of a double are the same number.
-/

namespace Automation

/-- A JSON number. -/
inductive Number where
  | int (value : Int)
  | double (value : Double)
  deriving DecidableEq, Repr, Inhabited

/-- Equality of numbers of one kind. -/
def Number.same : Number → Number → Bool
  | .int a, .int b => a == b
  | .double a, .double b => a.equal b
  | _, _ => false

/-- The number is zero, of either kind. -/
def Number.isZero : Number → Bool
  | .int n => n == 0
  | .double d => d.isZero

/-- A JSON value. -/
inductive Json where
  | null
  | bool (value : Bool)
  | number (value : Number)
  | string (value : String)
  | array (items : List Json)
  | object (fields : List (String × Json))
  deriving Inhabited, Repr

namespace Json

mutual

/-- Equality of values. -/
def same : Json → Json → Bool
  | .null, .null => true
  | .bool a, .bool b => a == b
  | .number a, .number b => a.same b
  | .string a, .string b => a == b
  | .array as, .array bs => sameItems as bs
  | .object as, .object bs => sameFields as bs
  | _, _ => false

/-- Equality of the items of arrays. -/
def sameItems : List Json → List Json → Bool
  | [], [] => true
  | a :: as, b :: bs => same a b && sameItems as bs
  | _, _ => false

/-- Equality of the fields of objects. -/
def sameFields : List (String × Json) → List (String × Json) → Bool
  | [], [] => true
  | (k, a) :: as, (l, b) :: bs => k == l && same a b && sameFields as bs
  | _, _ => false

end

/-- The number of an integer. -/
def int (n : Int) : Json :=
  .number (.int n)

/-- The value of an object's field. -/
def field? (name : String) : Json → Option Json
  | .object fields => fields.lookup name
  | _ => none

/-- The text of a string value. -/
def asString? : Json → Option String
  | .string s => some s
  | _ => none

/-- The value of a boolean. -/
def asBool? : Json → Option Bool
  | .bool b => some b
  | _ => none

/-- The value is null. -/
def isNull : Json → Bool
  | .null => true
  | _ => false

/-- The name of the value's kind. -/
def kindName : Json → String
  | .null => "null"
  | .bool _ => "boolean"
  | .number _ => "number"
  | .string _ => "string"
  | .array _ => "array"
  | .object _ => "object"

end Json

end Automation
