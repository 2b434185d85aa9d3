import Automation.Script.Operation
import Automation.Text.Casing
/-!
# Built-in functions and indices

The functions that scripts may call, the properties that values have, and the places that an index
selects. A function takes its first argument as the object of a method; some functions change it.
-/

namespace Automation.Script

open Text

/-- What a function does: it gives a result, or it also gives its object another value. -/
inductive Action where
  | result (value : Except Fault Value)
  | change (object : Except Fault Value)

namespace Value

/-- The characters that a text lacks to a length, taken from a padding over and over. -/
def padding (pad : List Char) (count : Nat) : List Char :=
  (List.replicate count pad).flatten.take count

/-- The string made longer to a number of characters. -/
def padString (limits : SizeLimits) (s : String) (length : Int) (pad : List Char) :
    Except Fault Value :=
  if length ≤ 0 then .ok (.string s)
  else if exceeds length.toNat limits.string then .error (.tooLarge "Length of string")
  else within limits (.string (s ++ String.ofList (padding pad (length.toNat - s.length))))

/-- The array made longer by an item to a number of items. -/
def padArray (limits : SizeLimits) (items : List Value) (length : Int) (v : Value) :
    Except Fault Value :=
  if length ≤ items.length then .ok (.array items)
  else if exceeds length.toNat limits.array then .error (.tooLarge "Size of array/BLOB")
  else within limits (.array (items ++ List.replicate (length.toNat - items.length) v))

/-- A character in another case, unless that takes several characters. -/
def recased (f : Char → List Char) (c : Char) : Value :=
  match f c with
  | [x] => .char x
  | _ => .char c

/-- The function of a name for some arguments. Calling a function value is calling the function that
it names. -/
def action? (limits : SizeLimits) (name : String) (arguments : List Value) : Option Action :=
  let plain (v : Value) : Option Action := some (.result (.ok v))
  match name, arguments with
  | "len", [.string s] => plain (.int s.length)
  | "len", [.array items] => plain (.int items.length)
  | "len", [.map fields] => plain (.int fields.length)
  | "to_upper", [.string s] => plain (.string (uppercase s))
  | "to_lower", [.string s] => plain (.string (lowercase s))
  | "to_upper", [.char c] => plain (recased upperChar c)
  | "to_lower", [.char c] => plain (recased lowerChar c)
  | "contains", [.string s, .string t] => plain (.bool (occurs t.toList s.toList))
  | "contains", [.string s, .char c] => plain (.bool (s.toList.contains c))
  | "contains", [.array items, v] => plain (.bool (items.any fun item => equal item v))
  | "contains", [.map fields, .string s] => plain (.bool (fields.lookup s).isSome)
  | "contains", [.range low high inclusive, .int n] =>
    plain (.bool (low ≤ n && (n < high || (inclusive && n == high))))
  | "push", [.array items, v] => some (.change (.ok (.array (items ++ [v]))))
  | "pad", [.string s, .int n, .char c] => some (.change (padString limits s n [c]))
  | "pad", [.string s, .int n, .string t] => some (.change (padString limits s n t.toList))
  | "pad", [.array items, .int n, v] => some (.change (padArray limits items n v))
  | "print", [] | "print", [_] | "debug", [] | "debug", [_] => plain .unit
  | "to_string", [v] => plain (.string (String.ofList v.show_))
  | "type_of", [v] => plain (.string v.typeName)
  | "name", [.function f] => plain (.string f)
  | "call", .function f :: rest =>
    match action? limits f rest with
    | some (.change r) => some (.result (r.map fun _ => .unit))
    | some a => some a
    | none => some (.result (.error (.unknownFunction (signature f rest))))
  | _, _ => none

/-- The function that a value names. -/
def functionNamed (v : Value) : Except Fault Value :=
  match v with
  | .string s =>
    if isName s && !keywords.contains s && !reservedWords.contains s then .ok (.function s)
    else .error (.unknownFunction s)
  | v => .error (.wrongType v.typeName "string")

/-- The property of a value that is no map. -/
def property (name : String) (v : Value) : Except Fault Value :=
  match name, v with
  | "len", .string s => .ok (.int s.length)
  | "len", .array items => .ok (.int items.length)
  | "name", .function f => .ok (.string f)
  | _, _ => .error (.unknownProperty name v.typeName)

/-- The place that an index selects; negative indices count from the end. -/
def placeOf? (size : Nat) (i : Int) : Option Nat :=
  if 0 ≤ i ∧ i < size then some i.toNat
  else if i < 0 ∧ -i ≤ size then some (size - (-i).toNat)
  else none

/-- What an index selects: a part that can be given another value, the place where a map has no part
yet, a character of a string or a bit of a number. -/
inductive Selection where
  | field (name : String) (value : Value)
  | missing (name : String)
  | item (place : Nat) (value : Value)
  | character (place : Nat) (value : Char)
  | bit (place : Nat) (value : Bool)

/-- What an index selects in a value, nothing if the value has no parts. -/
def select (v key : Value) : Except Fault (Option Selection) :=
  match v, key with
  | .map fields, .string name =>
    match fields.lookup name with
    | some found => .ok (some (.field name found))
    | none => .ok (some (.missing name))
  | .map _, _ => .error (.wrongType key.typeName "string")
  | .array items, .int i =>
    match (placeOf? items.length i).bind fun n => items[n]?.map (Selection.item n) with
    | some found => .ok (some found)
    | none => .error (.arrayBounds items.length i)
  | .string s, .int i =>
    match (placeOf? s.length i).bind fun n => s.toList[n]?.map (Selection.character n) with
    | some found => .ok (some found)
    | none => .error (.stringBounds s.length i)
  | .int n, .int i =>
    match placeOf? 64 i with
    | some place =>
      .ok (some (.bit place ((n.emod (Nat.pow 2 64 : Nat)).toNat / Nat.pow 2 place % 2 == 1)))
    | none => .error (.bitBounds i)
  | .array _, _ | .string _, _ | .int _, _ => .error (.wrongType key.typeName "i64")
  | _, _ => .ok none

/-- The value that is selected; a map gives unit where it has no field. -/
def Selection.value : Selection → Value
  | .field _ v | .item _ v => v
  | .missing _ => .unit
  | .character _ c => .char c
  | .bit _ b => .bool b

/-- The number with a bit set or cleared. -/
def withBit (n : Int) (place : Nat) (bit : Bool) : Int :=
  let word := (n.emod (Nat.pow 2 64 : Nat)).toNat
  let unit_ := Nat.pow 2 place
  let cleared := word - (word / unit_ % 2) * unit_
  let changed := if bit then cleared + unit_ else cleared
  if changed < Nat.pow 2 63 then changed else (changed : Int) - (Nat.pow 2 64 : Nat)

/-- The value with another value at a selection. -/
def Selection.put (s : Selection) (v new : Value) : Except Fault Value :=
  match s, v, new with
  | .field name _, .map fields, _ | .missing name, .map fields, _ =>
    .ok (.map (Fields.insert name new fields))
  | .item place _, .array items, _ => .ok (.array (items.set place new))
  | .character place _, .string s, .char c => .ok (.string (String.ofList (s.toList.set place c)))
  | .character _ _, _, _ => .error (.wrongType new.typeName "char")
  | .bit place _, .int n, .bool b => .ok (.int (withBit n place b))
  | .bit _ _, _, _ => .error (.wrongType new.typeName "bool")
  | _, _, _ => .ok v

/-- What a `for` loop runs through. -/
inductive Source where
  | list (values : List Value)
  | count (next stop : Int)

/-- What a `for` loop runs through for a value. -/
def source? : Value → Option Source
  | .array items => some (.list items)
  | .string s => some (.list (s.toList.map .char))
  | .range low high inclusive => some (.count low (if inclusive then high + 1 else high))
  | _ => none

/-- The next value, and what follows it. -/
def Source.next? : Source → Option (Value × Source)
  | .list [] => none
  | .list (v :: rest) => some (v, .list rest)
  | .count next stop => if next < stop then some (.int next, .count (next + 1) stop) else none

end Value

end Automation.Script
