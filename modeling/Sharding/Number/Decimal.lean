import Sharding.Number.Binary64

/-!
# Decimals

Decimal fractions, the doubles they are read as and the two notations they are written in.
-/

set_option autoImplicit false

namespace Sharding.Number

open scoped Word

/-- The value `digits * 10 ^ exponent`. -/
structure Decimal where
  digits : Nat
  exponent : Int
  deriving DecidableEq, Repr

/-- Without zeros at the end of the digits. -/
def Decimal.stripped (d : Decimal) : Decimal :=
  strip 17 d
where
  strip : Nat → Decimal → Decimal
  | 0, d => d
  | fuel + 1, d =>
    if d.digits % 10 = 0 && d.digits ≠ 0 then strip fuel ⟨d.digits / 10, d.exponent + 1⟩ else d

/-- The longest run of leading digits that a 64-bit register holds. The digits left out count
toward the exponent. -/
def Decimal.leading (d : Decimal) : Decimal :=
  cut 400 d
where
  cut : Nat → Decimal → Decimal
  | 0, d => d
  | fuel + 1, d => if 2 ^ (64 : Nat) ≤ d.digits then cut fuel ⟨d.digits / 10, d.exponent + 1⟩ else d

/-- The double a decimal is read as: its leading digits rounded to a double, then multiplied or
divided by the power of ten, which is a double too. Up to fifteen digits and powers up to
`10 ^ 22` this is the nearest double. -/
def Decimal.toBinary64 (d : Decimal) : Binary64 :=
  let d := d.leading
  let digits := Binary64.ofNat d.digits
  let places := (-d.exponent).toNat
  if 0 ≤ d.exponent then digits.mul (Binary64.ofNat (10 ^ d.exponent.toNat))
  else if places ≤ 308 then digits.div (Binary64.ofNat (10 ^ places))
  else (digits.div (Binary64.ofNat (10 ^ (308 : Nat)))).div (Binary64.ofNat (10 ^ (places - 308)))

def zeros (count : Nat) : String :=
  String.ofList (List.replicate count '0')

/-- Positional notation: all digits, a point only before a fraction, and never an exponent. -/
def Decimal.positional (d : Decimal) : String :=
  let digits := Nat.repr d.digits
  if 0 ≤ d.exponent then (if d.digits = 0 then "0" else digits ++ zeros d.exponent.toNat)
  else
    let places := (-d.exponent).toNat
    if digits.length ≤ places then "0." ++ zeros (places - digits.length) ++ digits
    else
      let whole := digits.toList.take (digits.length - places)
      let fraction := digits.toList.drop (digits.length - places)
      String.ofList whole ++ "." ++ String.ofList fraction

/-- The notation of fractions in documents: positional with at least one decimal place while the
point lies between five places before and sixteen places after the first digit, else one digit
before the point and an exponent with its sign. -/
def Decimal.scientific (d : Decimal) : String :=
  let digits := Nat.repr d.digits
  let point : Int := digits.length + d.exponent
  if d.digits = 0 then "0.0"
  else if 0 ≤ d.exponent && point ≤ 16 then d.positional ++ ".0"
  else if -5 < point && point ≤ 16 then d.positional
  else
    let fraction := digits.toList.drop 1
    let head := String.ofList (digits.toList.take 1)
    let mantissa := if fraction.isEmpty then head else head ++ "." ++ String.ofList fraction
    mantissa ++ (if 0 < point then "e+" else "e") ++ toString (point - 1)

end Sharding.Number
