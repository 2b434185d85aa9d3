import Automation.Double.Decimal
import Automation.Json.Display
import Automation.Moment.Reader
import Automation.Tree.Decode
/-!
# Comparing values of all kinds

A filter step compares two values. Values that are numbers or spell numbers compare as numbers,
texts that spell moments as moments, and everything else by its displayed text. Null is neither
larger nor less than anything.
-/

namespace Automation

open Text

/-- How a filter compares its field with its value. -/
inductive FilterCondition where
  | equal
  | notEqual
  | largerThan
  | lessThan
  deriving DecidableEq, Repr, Inhabited

namespace FilterCondition

/-- The conditions in the order in which messages list them. -/
def all : List FilterCondition :=
  [.equal, .notEqual, .largerThan, .lessThan]

/-- The name of a condition outside the program. -/
def wireName : FilterCondition → String
  | .equal => "EQUAL"
  | .notEqual => "NOT_EQUAL"
  | .largerThan => "LARGER_THAN"
  | .lessThan => "LESS_THAN"

/-- The condition that a tree names. -/
def ofTree (t : Tree) : Except DecodeFault FilterCondition :=
  t.asVariant (all.map fun c => (c.wireName, c))

end FilterCondition

/-- The double nearest to a number. -/
def Number.toDouble : Number → Double
  | .int n => Double.ofInt n
  | .double d => d

namespace Json

/-- The number that a value is or spells. -/
def asNumber? : Json → Option Double
  | .number n => some n.toDouble
  | .string s => Double.ofText? (trim s.toList)
  | _ => none

/-- The moments that two texts spell. -/
def asMoments? : Json → Json → Option (Moment × Moment)
  | .string a, .string b => do return (← Moment.ofStrict? a, ← Moment.ofStrict? b)
  | _, _ => none

/-- Equality as numbers, or else as displayed texts. -/
def looselyEqual (a b : Json) : Bool :=
  match a.asNumber?, b.asNumber? with
  | some x, some y => x.equal y
  | _, _ => a.display == b.display

/-- The order of two texts. -/
def orderTexts (a b : String) : Ordering :=
  if before a b then .lt else if before b a then .gt else .eq

/-- The order of two doubles; one that is not a number has none. -/
def orderDoubles? (a b : Double) : Option Ordering :=
  if a.less b then some .lt
  else if b.less a then some .gt
  else if a.equal b then some .eq
  else none

/-- The order of two values as numbers, as moments or as displayed texts. -/
def loosely? (a b : Json) : Option Ordering :=
  match a.asNumber?, b.asNumber? with
  | some x, some y => orderDoubles? x y
  | _, _ =>
    match asMoments? a b with
    | some (x, y) => some (x.order y)
    | none => if a.isNull ∨ b.isNull then none else some (orderTexts a.display b.display)

end Json

/-- The condition is true of a field and a value. -/
def FilterCondition.holds (c : FilterCondition) (field value : Json) : Bool :=
  match c with
  | .equal => Json.looselyEqual field value
  | .notEqual => !Json.looselyEqual field value
  | .largerThan => Json.loosely? field value == some .gt
  | .lessThan => Json.loosely? field value == some .lt

end Automation
