import ShaderLowering.Decimal.Binary

/-!
# The shortest decimal that reads back

Every finite word stands for an interval of reals: those nearer to it than to
its neighbours, the two end points included when the significand is even.  A
decimal reads back as the word when it lies in that interval.
`Dyadic.shortest` gives the decimal with the fewest digits in the interval, and
of two such decimals the nearer one; a decimal half-way between rounds up.

All arithmetic is on natural numbers.  Lengths are counted in quarters of the
last binary place, so that a narrow gap has whole-numbered half-widths too, and
a grid of decimals `k * 10 ^ p` is compared with them by cross-multiplication.

## Main definitions

* `Dyadic.onGrid?` — the point of a decimal grid that reads back, if there is one.
* `Dyadic.shortest` — the first such point on grids of one, two, ... digits.
-/

namespace ShaderLowering.Decimal

/-- A decimal `coefficient * 10 ^ power`. -/
structure Scaled where
  coefficient : Nat
  power : Int
deriving DecidableEq, Repr

namespace Dyadic

/-- The magnitude in quarters of its last binary place. -/
def quarters (d : Dyadic) : Nat :=
  4 * d.significand

/-- The lower end of the interval that reads back, in quarters. -/
def lowest (d : Dyadic) : Nat :=
  d.quarters - (if d.narrow then 1 else 2)

/-- The upper end of the interval that reads back, in quarters. -/
def highest (d : Dyadic) : Nat :=
  d.quarters + 2

/-- The numerator of one quarter measured in steps of `10 ^ power`. -/
def stepNumerator (d : Dyadic) (power : Int) : Nat :=
  Nat.pow 2 (d.exponent - 2).toNat * Nat.pow 10 (-power).toNat

/-- The denominator of one quarter measured in steps of `10 ^ power`. -/
def stepDenominator (d : Dyadic) (power : Int) : Nat :=
  Nat.pow 2 (2 - d.exponent).toNat * Nat.pow 10 power.toNat

/-- Whether `k * 10 ^ power` reads back as the magnitude. -/
def readsBack (d : Dyadic) (power : Int) (k : Nat) : Bool :=
  let position := k * d.stepDenominator power
  let low := d.lowest * d.stepNumerator power
  let high := d.highest * d.stepNumerator power
  if d.significand % 2 = 0 then low ≤ position && position ≤ high
  else low < position && position < high

/-- The point of the grid `k * 10 ^ power` that reads back as the magnitude, if
there is one.  Only the two neighbours of the magnitude need to be tried: every
other point of the grid is farther away on the same side. -/
def onGrid? (d : Dyadic) (power : Int) : Option Nat :=
  let exact := d.quarters * d.stepNumerator power
  let below := exact / d.stepDenominator power
  let rest := exact % d.stepDenominator power
  match d.readsBack power below, d.readsBack power (below + 1) with
  | true, true => some (if 2 * rest < d.stepDenominator power then below else below + 1)
  | true, false => some below
  | false, true => some (below + 1)
  | false, false => none

/-- The number of decimal digits of a positive number, and zero for zero. -/
def digitCount (n : Nat) : Nat :=
  if n = 0 then 0 else (Nat.toDigits 10 n).length

/-- The power of ten just above a positive magnitude `x`: the `e` with
`10 ^ (e - 1) ≤ x < 10 ^ e`. -/
def ceilingPower (d : Dyadic) : Int :=
  let numerator := d.significand * Nat.pow 2 d.exponent.toNat
  let denominator := Nat.pow 2 (-d.exponent).toNat
  if denominator ≤ numerator then digitCount (numerator / denominator)
  else 1 - (digitCount ((denominator - 1) / numerator) : Int)

/-- The decimal with the fewest digits that reads back as the magnitude.
Seventeen digits always suffice for a 64-bit word. -/
def shortest (d : Dyadic) : Scaled :=
  if d.significand = 0 then ⟨0, 0⟩
  else
    let top := d.ceilingPower
    let found := (List.range 17).findSome? fun n =>
      (d.onGrid? (top - (n + 1 : Nat))).map fun k => Scaled.mk k (top - (n + 1 : Nat))
    found.getD ⟨d.significand, 0⟩

end Dyadic

end ShaderLowering.Decimal
