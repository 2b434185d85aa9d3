import Automation.Double.Rounding
/-!
# Arithmetic of doubles

Each operation on finite doubles rounds its exact result once. Infinities, zeros and results that
are not numbers follow the usual rules of floating-point arithmetic.
-/

namespace Automation.Double

/-- The value of a finite double in units of `2 ^ s`, for `s` at most its scale. -/
def inUnits (d : Double) (s : Int) : Int :=
  let n : Int := d.significand * Nat.pow 2 (d.scale - s).toNat
  if d.isNegative then -n else n

/-- The double nearest to `n · 2 ^ s`; a zero gets the given sign. -/
def ofUnits (zeroSign : Bool) (n : Int) (s : Int) : Double :=
  if n = 0 then zero zeroSign
  else
    let (num, den) := scaleDown n.natAbs 1 (-s)
    ofRatio (n < 0) num den

/-- The sum of two doubles. -/
def add (a b : Double) : Double :=
  if a.isNaN || b.isNaN then nan
  else if !a.isFinite then
    if !b.isFinite && a.isNegative != b.isNegative then nan else a
  else if !b.isFinite then b
  else
    let s := if a.scale ≤ b.scale then a.scale else b.scale
    ofUnits (a.isNegative && b.isNegative) (a.inUnits s + b.inUnits s) s

/-- The difference of two doubles. -/
def sub (a b : Double) : Double :=
  a.add b.neg

/-- The product of two doubles. -/
def mul (a b : Double) : Double :=
  if a.isNaN || b.isNaN then nan
  else if !a.isFinite || !b.isFinite then
    if a.isZero || b.isZero then nan else infinity (a.isNegative != b.isNegative)
  else a.times b

/-- The quotient of two doubles. -/
def div (a b : Double) : Double :=
  if a.isNaN || b.isNaN then nan
  else if !a.isFinite then
    if !b.isFinite then nan else infinity (a.isNegative != b.isNegative)
  else if !b.isFinite then zero (a.isNegative != b.isNegative)
  else if b.isZero then
    if a.isZero then nan else infinity (a.isNegative != b.isNegative)
  else a.dividedBy b

/-- The remainder of a division rounded towards zero; it has the sign of the dividend. -/
def rem (a b : Double) : Double :=
  if a.isNaN || b.isNaN || !a.isFinite || b.isZero then nan
  else if !b.isFinite then a
  else
    let s := if a.scale ≤ b.scale then a.scale else b.scale
    ofUnits a.isNegative ((a.inUnits s).tmod (b.inUnits s)) s

end Automation.Double
