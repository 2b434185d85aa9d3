import Automation.Json.Reader
import Automation.Moment.Reader
import Automation.Text.Quoted
import Automation.Tree.Plain
/-!
# Decoding trees

Decoders turn a tree into a typed value or say what does not fit. A record is decoded in two steps:
`Tree.record` visits its entries in their order, so that the first entry that does not fit decides,
and then reports the first required field that is absent; `Record.get` and its companions take the
fields out. A sequence may stand for a record, its items being the fields in order.
-/

namespace Automation

open Text

/-- Why a tree is no number of milliseconds. -/
inductive MillisFault where
  | notWhole
  | notNumeric (text : String)
  | otherKind (text : String)
  deriving DecidableEq, Repr

/-- The wording of a fault. -/
def MillisFault.message : MillisFault → String
  | .notWhole => "time must be a non-negative integer"
  | .notNumeric text => "time '" ++ text ++ "' is not a number of milliseconds"
  | .otherKind text => "time must be a number, got " ++ text

/-- Why a tree does not fit. -/
inductive DecodeFault where
  | missingField (name : String)
  | duplicateField (name : String)
  | invalidType (actual expected : String)
  | invalidValue (actual expected : String)
  | unknownVariant (name : String) (expected : List String)
  | invalidLength (length : Nat) (expected : String)
  | moment (fault : Moment.Fault)
  | millis (fault : MillisFault)
  deriving DecidableEq, Repr

/-- A name between backquotes. -/
def ticked (s : String) : String :=
  "`" ++ s ++ "`"

/-- The wording of a fault. -/
def DecodeFault.message : DecodeFault → String
  | .missingField name => "missing field " ++ ticked name
  | .duplicateField name => "duplicate field " ++ ticked name
  | .invalidType actual expected => "invalid type: " ++ actual ++ ", expected " ++ expected
  | .invalidValue actual expected => "invalid value: " ++ actual ++ ", expected " ++ expected
  | .unknownVariant name expected =>
    "unknown variant " ++ ticked name ++ ", expected one of " ++
      ", ".intercalate (expected.map ticked)
  | .invalidLength length expected =>
    "invalid length " ++ String.ofList (digits length) ++ ", expected " ++ expected
  | .moment fault => fault.message
  | .millis fault => fault.message

namespace Tree

/-- What a tree is, in the words of messages. -/
def describe : Tree → String
  | .null => "null"
  | .bool b => "boolean " ++ ticked (if b then "true" else "false")
  | .number (.int n) => "integer " ++ ticked (String.ofList (integer n))
  | .number (.double d) => "floating point " ++ ticked (String.ofList d.jsonText)
  | .string s => "string " ++ quoted s
  | .plain s => "string " ++ quoted s
  | .sequence .. => "sequence"
  | .mapping _ => "map"
  | .unusable => "unusable value"

/-- The fault of a tree of another kind. -/
def wrong {α : Type} (expected : String) (t : Tree) : Except DecodeFault α :=
  .error (.invalidType t.describe expected)

/-- A text; an unquoted scalar is its own text. -/
def asString : Tree → Except DecodeFault String
  | .string s => .ok s
  | .plain s => .ok s
  | t => wrong "a string" t

/-- A boolean. -/
def asBool : Tree → Except DecodeFault Bool
  | .bool b => .ok b
  | .plain s =>
    match Plain.bool? s with
    | some b => .ok b
    | none => wrong "a boolean" (.plain s)
  | t => wrong "a boolean" t

/-- A whole number from zero to `limit`; `name` is what messages call its type. -/
def asWord (limit : Nat) (name : String) : Tree → Except DecodeFault Nat
  | .number (.int n) =>
    if 0 ≤ n ∧ n ≤ limit then .ok n.toNat
    else .error (.invalidValue (describe (.number (.int n))) name)
  | .plain s =>
    match Plain.int? s with
    | some n =>
      if 0 ≤ n ∧ n ≤ limit then .ok n.toNat
      else .error (.invalidValue (describe (.number (.int n))) name)
    | none => wrong name (.plain s)
  | t => wrong name t

/-- Any JSON value. -/
def asJson (t : Tree) : Except DecodeFault Json :=
  match t.toJson? with
  | some v => .ok v
  | none => wrong "any valid JSON value" t

/-- A value that may be null. -/
def asOption {α : Type} (decode : Tree → Except DecodeFault α) (t : Tree) :
    Except DecodeFault (Option α) :=
  match t with
  | .null => .ok none
  | .plain s => if Plain.isNull s then .ok none else some <$> decode t
  | _ => some <$> decode t

/-- The items of a sequence, each decoded. -/
def asList {α : Type} (decode : Tree → Except DecodeFault α) : Tree → Except DecodeFault (List α)
  | .sequence _ items => items.mapM decode
  | .plain "" => .ok []
  | t => wrong "a sequence" t

/-- The entries of a mapping, each decoded, repeated ones included. -/
def asEntries {α : Type} (decode : Tree → Except DecodeFault α) :
    Tree → Except DecodeFault (List (String × α))
  | .mapping entries => entries.mapM fun (name, t) => do return (name, ← decode t)
  | .plain "" => .ok []
  | t => wrong "a map" t

/-- The entries of a mapping in the order of their first occurrence. -/
def asOrdered {α : Type} (decode : Tree → Except DecodeFault α) (t : Tree) :
    Except DecodeFault (Entries α) :=
  Entries.ofList <$> asEntries decode t

/-- The entries of a mapping sorted by name. -/
def asSorted {α : Type} (decode : Tree → Except DecodeFault α) (t : Tree) :
    Except DecodeFault (List (String × α)) :=
  Fields.ofList <$> asEntries decode t

/-- The value that a name stands for. -/
def namedValue {α : Type} (all : List (String × α)) (name : String) : Except DecodeFault α :=
  match all.lookup name with
  | some a => .ok a
  | none => .error (.unknownVariant name (all.map (·.1)))

/-- One of several names, or a mapping from one of them to null. -/
def asVariant {α : Type} (all : List (String × α)) : Tree → Except DecodeFault α
  | .string s => namedValue all s
  | .plain s => namedValue all s
  | .mapping [(name, content)] => do
    let a ← namedValue all name
    match content with
    | .null => return a
    | _ => wrong "unit" content
  | .mapping entries =>
    .error (.invalidValue (describe (.mapping entries)) "map with a single key")
  | t => wrong "string or map" t

/-- A moment in the relaxed form. -/
def asMoment : Tree → Except DecodeFault Moment
  | .string s => (Moment.ofRelaxed s).mapError .moment
  | .plain s => (Moment.ofRelaxed s).mapError .moment
  | t => wrong "an RFC 3339 formatted date and time string" t

/-- The number of milliseconds that a value stands for: a whole number or a text that spells one. -/
def millisOf : Json → Except MillisFault Nat
  | .number (.int n) => if 0 ≤ n ∧ n ≤ maxWord64 then .ok n.toNat else .error .notWhole
  | .number (.double _) => .error .notWhole
  | .string s =>
    match readWord? maxWord64 (trim s.toList) with
    | some n => .ok n
    | none => .error (.notNumeric s)
  | v => .error (.otherKind v.text)

/-- A number of milliseconds. -/
def asMillis (t : Tree) : Except DecodeFault Nat := do
  (millisOf (← t.asJson)).mapError .millis

end Tree

/-- A field of a record: its name, whether it may be absent, and a test of its value. -/
structure FieldShape where
  name : String
  optional : Bool
  check : Tree → Except DecodeFault Unit

namespace FieldShape

/-- A field that has to be there. -/
def required {α : Type} (name : String) (decode : Tree → Except DecodeFault α) : FieldShape :=
  ⟨name, false, fun t => discard (decode t)⟩

/-- A field that may be absent. -/
def optional_ {α : Type} (name : String) (decode : Tree → Except DecodeFault α) : FieldShape :=
  ⟨name, true, fun t => discard (decode t)⟩

end FieldShape

/-- The fields of a record that have been checked. -/
abbrev Record := List (String × Tree)

namespace Record

/-- Checks the entries of a mapping in order. Entries that are no fields are left out, and a field
may come only once. -/
def visit (shapes : List FieldShape) : Record → List (String × Tree) → Except DecodeFault Record
  | seen, [] => .ok seen
  | seen, (name, t) :: rest =>
    match shapes.find? (·.name == name) with
    | none => visit shapes seen rest
    | some shape =>
      if (seen.lookup name).isSome then .error (.duplicateField name)
      else do
        shape.check t
        visit shapes (seen ++ [(name, t)]) rest

/-- Checks the items of a sequence as the fields in order, the first of which has number `index`. -/
def visitItems (expected : String) : Nat → List FieldShape → List Tree → Except DecodeFault Record
  | _, [], _ => .ok []
  | index, shape :: shapes, [] =>
    if shape.optional then visitItems expected (index + 1) shapes []
    else .error (.invalidLength index expected)
  | index, shape :: shapes, t :: rest => do
    shape.check t
    return (shape.name, t) :: (← visitItems expected (index + 1) shapes rest)

/-- Reports the first required field that is absent. -/
def complete (shapes : List FieldShape) (r : Record) : Except DecodeFault Record :=
  match shapes.find? fun shape => !shape.optional && (r.lookup shape.name).isNone with
  | some shape => .error (.missingField shape.name)
  | none => .ok r

/-- The value of a required field. -/
def get {α : Type} (r : Record) (name : String) (decode : Tree → Except DecodeFault α) :
    Except DecodeFault α :=
  match r.lookup name with
  | some t => decode t
  | none => .error (.missingField name)

/-- The value of a field that has a default. -/
def getD {α : Type} (r : Record) (name : String) (decode : Tree → Except DecodeFault α)
    (default_ : α) : Except DecodeFault α :=
  match r.lookup name with
  | some t => decode t
  | none => .ok default_

/-- The value of a field that may be absent or null. -/
def get? {α : Type} (r : Record) (name : String) (decode : Tree → Except DecodeFault α) :
    Except DecodeFault (Option α) :=
  r.getD name (Tree.asOption decode) none

end Record

/-- The number of the fields of a record, in words. -/
def elementCount (n : Nat) : String :=
  String.ofList (digits n) ++ (if n = 1 then " element" else " elements")

/-- The checked fields of a record. -/
def Tree.record (name : String) (shapes : List FieldShape) : Tree → Except DecodeFault Record
  | .mapping entries => do
    let seen ← Record.visit shapes [] entries
    Record.complete shapes seen
  | .plain "" => Record.complete shapes []
  | .sequence true items => do
    let expected := "struct " ++ name ++ " with " ++ elementCount shapes.length
    let seen ← Record.visitItems expected 0 shapes items
    if items.length > shapes.length then
      .error (.invalidLength items.length "fewer elements in array")
    else return seen
  | t => wrong ("struct " ++ name) t

end Automation
