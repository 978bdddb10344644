import Sharding.Number.Decimal

/-!
# Shortest decimals

The decimal with the fewest digits among those that round to a given double, and of these the
nearest to it. The decimals with `n` significant digits form a grid; if a point of the grid rounds
to the double, then so does one of the double's two neighbours on that grid, so trying both
neighbours on ever finer grids finds the shortest one. Seventeen digits always suffice.
-/

set_option autoImplicit false

namespace Sharding.Number

open scoped Word

inductive Tie where
  | up
  | even
  deriving DecidableEq, Repr

/-- A double between the two midpoints that bound the reals rounding to it, all three over one
denominator. The midpoints belong to the interval if the mantissa is even. -/
structure RoundingInterval where
  low : Nat
  value : Nat
  high : Nat
  denominator : Nat
  closed : Bool

namespace RoundingInterval

/-- The interval of a double. Below a power of two the lower neighbour is only half as far. -/
def ofBinary64 (x : Binary64) : RoundingInterval :=
  let below := if x.mantissa = 2 ^ (52 : Nat) ∧ Binary64.minExponent < x.exponent then 1 else 2
  let exponent := x.exponent - 2
  let factor := if 0 ≤ exponent then 2 ^ exponent.toNat else 1
  { low := (4 * x.mantissa - below) * factor
    value := 4 * x.mantissa * factor
    high := (4 * x.mantissa + 2) * factor
    denominator := if 0 ≤ exponent then 1 else 2 ^ (-exponent).toNat
    closed := x.mantissa % 2 = 0 }

/-- The number of decimal digits before the point of the value, counting zeros after the point
negatively: the value lies in `[10 ^ (k - 1), 10 ^ k)`. -/
def magnitude (interval : RoundingInterval) : Int :=
  if interval.denominator ≤ interval.value then
    (Nat.repr (interval.value / interval.denominator)).length
  else zeros 400 interval.value
where
  zeros : Nat → Nat → Int
  | 0, _ => 0
  | fuel + 1, top => if interval.denominator ≤ 10 * top then 0 else zeros fuel (10 * top) - 1

/-- A decimal as a numerator over the denominator of the interval, times the power of ten that
makes it whole. -/
def numerators (interval : RoundingInterval) (d : Decimal) : Nat × Nat :=
  if 0 ≤ d.exponent then (d.digits * 10 ^ d.exponent.toNat * interval.denominator, 1)
  else (d.digits * interval.denominator, 10 ^ (-d.exponent).toNat)

def holds (interval : RoundingInterval) (d : Decimal) : Bool :=
  let (top, unit) := interval.numerators d
  if interval.closed then interval.low * unit ≤ top && top ≤ interval.high * unit
  else interval.low * unit < top && top < interval.high * unit

/-- The nearer of two neighbouring decimals around the value. -/
def nearer (interval : RoundingInterval) (tie : Tie) (down up : Decimal) : Decimal :=
  let (low, unit) := interval.numerators down
  let (high, _) := interval.numerators up
  let below := interval.value * unit - low
  let above := high - interval.value * unit
  if below < above then down
  else if above < below then up
  else match tie with
    | .up => up
    | .even => if down.digits % 2 = 0 then down else up

/-- The decimal on the grid of `10 ^ exponent` that rounds to the double and is nearest to it. -/
def onGrid? (interval : RoundingInterval) (tie : Tie) (exponent : Int) : Option Decimal :=
  let digits :=
    if 0 ≤ exponent then interval.value / (interval.denominator * 10 ^ exponent.toNat)
    else interval.value * 10 ^ (-exponent).toNat / interval.denominator
  let down : Decimal := ⟨digits, exponent⟩
  let up : Decimal := ⟨digits + 1, exponent⟩
  match interval.holds down, interval.holds up with
  | true, true => some (interval.nearer tie down up)
  | true, false => some down
  | false, true => some up
  | false, false => none

end RoundingInterval

/-- The shortest decimal that rounds to a double, nearest to it among those. -/
def shortest (tie : Tie) (x : Binary64) : Decimal :=
  if x.mantissa = 0 then ⟨0, 0⟩
  else
    let interval := RoundingInterval.ofBinary64 x
    let magnitude := interval.magnitude
    let tried := (List.range 17).findSome? fun (count : Nat) =>
      interval.onGrid? tie (magnitude - (count + 1))
    (tried.getD ⟨0, 0⟩).stripped

end Sharding.Number
