import Sharding.Word

/-!
# Double precision

Non-negative rationals rounded to 53 significant bits, in exact integer arithmetic. A rounded
value is a mantissa times a power of two; ties go to the even mantissa, and the exponent stops
at that of the subnormal numbers. Exponents have no upper end.
-/

set_option autoImplicit false

namespace Sharding.Number

open scoped Word

/-- The whole number nearest to `num / den`, the even one of two. -/
def roundHalfEven (num den : Nat) : Nat :=
  let quotient := num / den
  let rest := num % den
  if 2 * rest < den then quotient
  else if den < 2 * rest then quotient + 1
  else if quotient % 2 = 0 then quotient
  else quotient + 1

/-- The value `mantissa * 2 ^ exponent`. -/
structure Binary64 where
  mantissa : Nat
  exponent : Int
  deriving DecidableEq, Repr

namespace Binary64

/-- The least exponent, at which the subnormal numbers lie. -/
def minExponent : Int := -1074

/-- Numerator and denominator of `num / den / 2 ^ exponent`. -/
def scaled (num den : Nat) (exponent : Int) : Nat × Nat :=
  if 0 ≤ exponent then (num, den * 2 ^ exponent.toNat) else (num * 2 ^ (-exponent).toNat, den)

/-- The exponent at which `num / den` has a mantissa of 53 bits, or the least one. -/
def scale (num den : Nat) : Int :=
  let guess : Int := Nat.log2 num - Nat.log2 den - 52
  let (top, bottom) := scaled num den guess
  max minExponent (if top / bottom < 2 ^ (52 : Nat) then guess - 1 else guess)

/-- The double nearest to `num / den`. -/
def nearest (num den : Nat) : Binary64 :=
  if num = 0 then ⟨0, minExponent⟩
  else
    let exponent := scale num den
    let (top, bottom) := scaled num den exponent
    let mantissa := roundHalfEven top bottom
    if mantissa = 2 ^ (53 : Nat) then ⟨2 ^ (52 : Nat), exponent + 1⟩ else ⟨mantissa, exponent⟩

def ofNat (n : Nat) : Binary64 :=
  nearest n 1

def mul (left right : Binary64) : Binary64 :=
  let exponent := left.exponent + right.exponent
  let mantissa := left.mantissa * right.mantissa
  if 0 ≤ exponent then nearest (mantissa * 2 ^ exponent.toNat) 1
  else nearest mantissa (2 ^ (-exponent).toNat)

def div (left right : Binary64) : Binary64 :=
  let shift := left.exponent - right.exponent
  if 0 ≤ shift then nearest (left.mantissa * 2 ^ shift.toNat) right.mantissa
  else nearest left.mantissa (right.mantissa * 2 ^ (-shift).toNat)

/-- The value times one hundred as the nearest whole number, the even one of two: the value
written with two decimal places, without its point. -/
def hundredths (x : Binary64) : Nat :=
  if 0 ≤ x.exponent then 100 * x.mantissa * 2 ^ x.exponent.toNat
  else roundHalfEven (100 * x.mantissa) (2 ^ (-x.exponent).toNat)

end Binary64

end Sharding.Number
