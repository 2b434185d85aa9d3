import Automation.Double.Basic
/-!
# Shortest decimals of doubles

The shortest decimal of a finite double is the decimal with the fewest digits that lies among the
reals rounding to the double, and of those the nearest to it. Grids of 1, 2, … 17 significant digits
are tried in turn; on each grid only the two neighbours of the double can be nearest.
-/

namespace Automation.Double

/-- `coefficient · 10 ^ exponent`. -/
structure Decimal where
  coefficient : Nat
  exponent : Int
  deriving DecidableEq, Repr

/-- Twice the distance between two quotients' numerators over a common denominator. -/
def gap (a b : Nat) : Nat :=
  if a < b then b - a else a - b

/-- The reals that round to a double, over a common denominator: the double itself, the two ends and
whether the ends belong. All numerators are in units of a quarter of the last binary place. -/
structure Interval where
  value : Nat
  low : Nat
  high : Nat
  den : Nat
  closed : Bool

/-- The interval of a finite double other than zero. Below a power of two the doubles are twice as
dense, so the lower end is half as far. -/
def interval (d : Double) : Interval :=
  let m := d.significand
  let step := if m = Nat.pow 2 52 ∧ d.exponentField > 1 then 1 else 2
  let (unit, den) : Nat × Nat := match d.scale - 2 with
    | .ofNat q => (Nat.pow 2 q, 1)
    | .negSucc q => (1, Nat.pow 2 (q + 1))
  ⟨4 * m * unit, (4 * m - step) * unit, (4 * m + 2) * unit, den, m % 2 = 0⟩

/-- The reals of the interval contain `num / den`, the denominator being the interval's times
`factor`. -/
def Interval.contains (i : Interval) (num factor : Nat) : Bool :=
  (i.low * factor < num && num < i.high * factor) ||
    (i.closed && (i.low * factor == num || i.high * factor == num))

/-- The neighbours of the interval's value on the grid of multiples of `10 ^ k` that lie in the
interval; of two, the nearer, and on a tie the even one. -/
def Interval.onGrid? (i : Interval) (k : Int) : Option Nat :=
  let (unit, factor) : Nat × Nat := match k with
    | .ofNat e => (Nat.pow 10 e * i.den, 1)
    | .negSucc e => (i.den, Nat.pow 10 (e + 1))
  let below := i.value * factor / unit
  let above := below + 1
  let belowFits := below > 0 && i.contains (below * unit) factor
  let aboveFits := i.contains (above * unit) factor
  if belowFits && aboveFits then
    let d := gap (below * unit) (i.value * factor)
    let u := gap (above * unit) (i.value * factor)
    if d < u || (d == u && below % 2 == 0) then some below else some above
  else if belowFits then some below
  else if aboveFits then some above
  else none

/-- The exponent `e` with `10 ^ e ≤ value < 10 ^ (e + 1)`, looked for upwards from `start`. -/
def Interval.exponentFrom (i : Interval) : Nat → Int → Int
  | 0, e => e
  | fuel + 1, e =>
    let reached := match e + 1 with
      | .ofNat k => decide (i.value ≥ Nat.pow 10 k * i.den)
      | .negSucc k => decide (i.value * Nat.pow 10 (k + 1) ≥ i.den)
    if reached then i.exponentFrom fuel (e + 1) else e

/-- The first grid of `n`, `n + 1`, … digits that has a point in the interval. -/
def Interval.search (i : Interval) (e : Int) : Nat → Nat → Decimal
  | 0, _ => ⟨0, 0⟩
  | fuel + 1, n =>
    let k := e + 1 - n
    match i.onGrid? k with
    | some digits => ⟨digits, k⟩
    | none => i.search e fuel (n + 1)

/-- Moves trailing zeros of the digits into the exponent. -/
def Decimal.strip : Nat → Decimal → Decimal
  | 0, d => d
  | fuel + 1, d =>
    if d.coefficient ≠ 0 ∧ d.coefficient % 10 = 0 then
      strip fuel ⟨d.coefficient / 10, d.exponent + 1⟩
    else d

/-- The shortest decimal of the magnitude of a finite double. -/
def shortest (d : Double) : Decimal :=
  if d.isZero then ⟨0, 0⟩
  else
    let i := d.interval
    let guess : Int := ((i.value.log2 : Int) - i.den.log2 - 2) * 30103 / 100000 - 1
    (i.search (i.exponentFrom 8 guess) 17 1).strip 20

end Automation.Double
