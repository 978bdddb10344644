import Mathlib.Algebra.Order.Floor.Semiring
import Mathlib.Data.Rat.Floor
import Sharding.Proofs.Number.Rounding

/-!
# Precision of doubles

How far a double is from the rational it is rounded from. Whole numbers of up to 53 bits are
doubles themselves, and a rational is missed by at most half the distance of the doubles around it.
-/

set_option autoImplicit false

namespace Sharding.Number

theorem IsRounding.eq_of_natCast {n rounded : ℕ} (near : IsRounding n rounded) : rounded = n :=
  Nat.le_antisymm (near.mono (.natCast n) le_rfl) (IsRounding.mono (.natCast n) near le_rfl)

namespace Binary64

variable {value rounded : ℚ} {exponent bound : ℤ} {n : ℕ}

theorem InBinade.le_of_lt (binade : InBinade value exponent) (least : minExponent ≤ bound)
    (lt : value < 2 ^ (bound + 53)) : exponent ≤ bound := by
  rcases binade.ge with lowest | ge
  · rw [lowest]
    exact least
  · have := (zpow_lt_zpow_iff_right₀ (one_lt_two (α := ℚ))).mp (ge.trans_lt lt)
    omega

/-- A whole number of up to 53 bits is a multiple of the unit of its binade. -/
theorem IsNearest.eq_natCast (near : IsNearest n rounded) (lt : n < 2 ^ 53) : rounded = n := by
  obtain ⟨exponent, mantissa, binade, rounding, rfl⟩ := near
  have nonpos : exponent ≤ 0 := by
    refine binade.le_of_lt (by decide) ?_
    rw [zero_add]
    exact_mod_cast lt
  have unit : (2 : ℚ) ^ exponent = ((2 ^ (-exponent).toNat : ℕ) : ℚ)⁻¹ := by
    rw [← zpow_of_nonneg (by omega), zpow_neg, inv_inv]
  rw [unit, div_inv_eq_mul, ← Nat.cast_mul] at rounding
  have cancel : ((2 ^ (-exponent).toNat : ℕ) : ℚ) ≠ 0 := by positivity
  rw [rounding.eq_of_natCast, unit, Nat.cast_mul, mul_inv_cancel_right₀ cancel]

theorem IsNearest.abs_sub_le (near : IsNearest value rounded) (least : minExponent ≤ bound)
    (lt : value < 2 ^ (bound + 53)) : |rounded - value| ≤ 2 ^ bound / 2 := by
  obtain ⟨exponent, mantissa, binade, rounding, rfl⟩ := near
  have unit : (0 : ℚ) < 2 ^ exponent := by positivity
  have unitLe : (2 : ℚ) ^ exponent ≤ 2 ^ bound :=
    zpow_le_zpow_right₀ one_le_two (binade.le_of_lt least lt)
  have above := mul_le_mul_of_nonneg_right rounding.above unit.le
  have below := mul_le_mul_of_nonneg_right rounding.below unit.le
  rw [div_mul_cancel₀ _ unit.ne'] at above
  rw [add_mul, div_mul_cancel₀ _ unit.ne'] at below
  rw [abs_le]
  constructor <;> linarith

theorem toRat_ofNat (lt : n < 2 ^ 53) : (ofNat n).toRat = n := by
  have near := isNearest_nearest n one_pos
  rw [Nat.cast_one, div_one] at near
  exact near.eq_natCast lt

theorem isNearest_natCast (lt : n < 2 ^ 53) : IsNearest n n := by
  have near := isNearest_nearest n one_pos
  rw [Nat.cast_one, div_one] at near
  rwa [near.eq_natCast lt] at near

/-- The decimal with two places that stands for some hundredths, read as a double. Rounding it up
gives what rounding up the hundredths gives, as the double is nearer to the decimal than any whole
number that the decimal is not equal to. -/
theorem ceil_nearest_hundredths (lt : n < 2 ^ 51) :
    ⌈(nearest n 100).toRat⌉₊ = (n + 99) / 100 := by
  have near := isNearest_nearest n (show 0 < 100 by decide)
  obtain ⟨whole, wholeEq⟩ : ∃ whole, whole = (n + 99) / 100 := ⟨_, rfl⟩
  rw [← wholeEq]
  have small : (n : ℚ) < 2 ^ 51 := by exact_mod_cast lt
  have below : (n : ℚ) ≤ 100 * whole := by
    exact_mod_cast (show n ≤ 100 * whole by omega)
  have upper : (nearest n 100).toRat ≤ whole := by
    refine near.mono (isNearest_natCast (by omega)) ?_
    rw [Nat.cast_ofNat, div_le_iff₀ (by norm_num)]
    linarith
  refine le_antisymm (Nat.ceil_le.mpr upper) ?_
  rcases Nat.eq_zero_or_pos whole with zero | pos
  · rw [zero]
    exact Nat.zero_le _
  · obtain ⟨before, rfl⟩ : ∃ before, whole = before + 1 := ⟨whole - 1, by omega⟩
    rw [Nat.add_one_le_ceil_iff]
    have above : 100 * (before : ℚ) + 1 ≤ n := by
      exact_mod_cast (show 100 * before + 1 ≤ n by omega)
    have fits : (n : ℚ) / (100 : ℕ) < 2 ^ ((-8 : ℤ) + 53) := by
      rw [Nat.cast_ofNat, div_lt_iff₀ (by norm_num)]
      norm_num
      linarith
    have close := near.abs_sub_le (by decide) fits
    rw [abs_le, Nat.cast_ofNat] at close
    norm_num at close
    linarith

end Binary64

end Sharding.Number
