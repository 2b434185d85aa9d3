/-!
# Doubles

A double is kept as its 64 bits: a sign, eleven bits of exponent and 52 bits of fraction. A finite
double is `± significand · 2 ^ scale`. Doubles are compared through `order`, an integer that grows
with the value and is the same for both zeros.
-/

namespace Automation

/-- A floating-point number of 64 bits. -/
structure Double where
  bits : UInt64
  deriving DecidableEq, Repr, Inhabited

namespace Double

/-- The sign bit is set. -/
def isNegative (d : Double) : Bool :=
  d.bits.toNat ≥ Nat.pow 2 63

/-- The bits without the sign. -/
def magnitude (d : Double) : Nat :=
  d.bits.toNat % Nat.pow 2 63

/-- The eleven bits of the exponent. -/
def exponentField (d : Double) : Nat :=
  d.magnitude / Nat.pow 2 52

/-- Neither infinite nor a NaN. -/
def isFinite (d : Double) : Bool :=
  d.exponentField < 2047

/-- Not a number. -/
def isNaN (d : Double) : Bool :=
  d.magnitude > 2047 * Nat.pow 2 52

/-- The whole number that a finite double multiplies by a power of two. -/
def significand (d : Double) : Nat :=
  if d.exponentField = 0 then d.magnitude else Nat.pow 2 52 + d.magnitude % Nat.pow 2 52

/-- The power of two of a finite double. -/
def scale (d : Double) : Int :=
  if d.exponentField = 0 then -1074 else (d.exponentField : Int) - 1075

/-- An integer that is smaller for a smaller number and equal for the two zeros. -/
def order (d : Double) : Int :=
  if d.isNegative then -(d.magnitude : Int) else d.magnitude

/-- Numeric equality: zeros are equal whatever their sign, and a NaN equals nothing. -/
def equal (a b : Double) : Bool :=
  !a.isNaN && !b.isNaN && a.order == b.order

/-- Numeric order; a NaN is never less and never greater. -/
def less (a b : Double) : Bool :=
  !a.isNaN && !b.isNaN && a.order < b.order

instance : BEq Double := ⟨equal⟩

/-- The double with the given sign and magnitude bits. -/
def ofMagnitude (negative : Bool) (magnitude : Nat) : Double :=
  ⟨UInt64.ofNat (if negative then Nat.pow 2 63 + magnitude else magnitude)⟩

/-- Zero with a sign. -/
def zero (negative : Bool) : Double :=
  ofMagnitude negative 0

/-- Infinity with a sign. -/
def infinity (negative : Bool) : Double :=
  ofMagnitude negative (2047 * Nat.pow 2 52)

/-- A number that is not a number. -/
def nan : Double :=
  ofMagnitude false (4095 * Nat.pow 2 51)

/-- The opposite number. -/
def neg (d : Double) : Double :=
  ofMagnitude (!d.isNegative) d.magnitude

/-- One of the two zeros. -/
def isZero (d : Double) : Bool :=
  d.magnitude == 0

end Double

end Automation
