import Automation.Double.Basic
/-!
# Rounding to doubles

`Double.ofRatio` is the double nearest to a quotient of natural numbers, a tie going to the even
significand and anything above the largest double to infinity. Whole numbers, decimals, products and
quotients of doubles are all rounded through it, so each is one exact value followed by one
rounding.
-/

namespace Automation.Double

/-- The whole number nearest to `num / den`, ties to even. -/
def roundQuotient (num den : Nat) : Nat :=
  let q := num / den
  let r := num % den
  if 2 * r > den ∨ (2 * r = den ∧ q % 2 = 1) then q + 1 else q

/-- `num / den / 2 ^ q` as a quotient of natural numbers. -/
def scaleDown (num den : Nat) : Int → Nat × Nat
  | .ofNat q => (num, den * Nat.pow 2 q)
  | .negSucc q => (num * Nat.pow 2 (q + 1), den)

/-- The power of two whose multiples are the doubles around `num / den`: the quotient by it has 53
binary digits, or fewer if it is the least power there is. -/
def scaleFor (num den : Nat) : Int :=
  let low : Int := (num.log2 : Int) - den.log2 - 53
  let q := if low < -1074 then -1074 else low
  let (n, d) := scaleDown num den q
  if n / d ≥ Nat.pow 2 53 then q + 1 else q

/-- The double of a sign, a significand of at most `2 ^ 53` and a power of two. -/
def pack (negative : Bool) (m : Nat) (q : Int) : Double :=
  if m < Nat.pow 2 52 then ofMagnitude negative m
  else
    let (m, q) := if m = Nat.pow 2 53 then (Nat.pow 2 52, q + 1) else (m, q)
    if q + 1075 ≥ 2047 then infinity negative
    else ofMagnitude negative ((q + 1075).toNat * Nat.pow 2 52 + (m - Nat.pow 2 52))

/-- The double nearest to `num / den`, with a sign. -/
def ofRatio (negative : Bool) (num den : Nat) : Double :=
  if num = 0 then zero negative
  else
    let q := scaleFor num den
    let (n, d) := scaleDown num den q
    pack negative (roundQuotient n d) q

/-- The double nearest to an integer. -/
def ofInt (n : Int) : Double :=
  ofRatio (n < 0) n.natAbs 1

/-- The double nearest to `m · 10 ^ e`, with a sign. Exponents so large or so small that only
infinity or zero is left are not expanded. -/
def ofDecimal (negative : Bool) (m : Nat) (e : Int) : Double :=
  if m = 0 then zero negative
  else if e > 400 then infinity negative
  else if e + (m.log2 : Int) < -1200 ∧ e < -400 then zero negative
  else
    match e with
    | .ofNat k => ofRatio negative (m * Nat.pow 10 k) 1
    | .negSucc k => ofRatio negative m (Nat.pow 10 (k + 1))

/-- The product of finite doubles. -/
def times (a b : Double) : Double :=
  let (n, d) := scaleDown (a.significand * b.significand) 1 (-(a.scale + b.scale))
  ofRatio (a.isNegative != b.isNegative) n d

/-- The quotient of finite doubles, the second of which is not zero. -/
def dividedBy (a b : Double) : Double :=
  let (n, d) := scaleDown a.significand b.significand (-(a.scale - b.scale))
  ofRatio (a.isNegative != b.isNegative) n d

end Automation.Double
