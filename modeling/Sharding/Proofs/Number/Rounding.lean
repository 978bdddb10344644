import Mathlib.Algebra.Order.Field.Power
import Mathlib.Data.Rat.Cast.Order
import Mathlib.Tactic.Linarith
import Mathlib.Tactic.Positivity
import Sharding.Number.Binary64

/-!
# Rounding is monotone

What a fraction is rounded to, as a double or as a whole number, is described by the rational it
stands for, and it keeps the order of the rationals. Between numbers of different magnitude this
rests on the power of two that separates them, which is a double itself.
-/

set_option autoImplicit false

namespace Sharding.Number

/-! ## Whole numbers -/

/-- A whole number nearest to a rational, the even one of two. -/
structure IsRounding (value : ℚ) (rounded : ℕ) : Prop where
  above : value ≤ rounded + 1 / 2
  below : (rounded : ℚ) ≤ value + 1 / 2
  tie : value = rounded + 1 / 2 ∨ rounded = value + 1 / 2 → rounded % 2 = 0

namespace IsRounding

variable {value other : ℚ} {rounded otherRounded : ℕ}

theorem natCast (n : ℕ) : IsRounding n n where
  above := by linarith
  below := by linarith
  tie halved := by rcases halved with half | half <;> linarith

/-- Two neighbours are never both rounded away from the middle between them, because one of them
is odd. -/
theorem mono (first : IsRounding value rounded) (second : IsRounding other otherRounded)
    (le : value ≤ other) : rounded ≤ otherRounded := by
  by_contra greater
  have apart : otherRounded + 1 ≤ rounded := by omega
  have cast : (otherRounded : ℚ) + 1 ≤ rounded := by exact_mod_cast apart
  have below := first.below
  have above := second.above
  have neighbours : (rounded : ℚ) = otherRounded + 1 := by linarith
  have even := first.tie (.inr (by linarith))
  have otherEven := second.tie (.inl (by linarith))
  have next : rounded = otherRounded + 1 := by exact_mod_cast neighbours
  omega

end IsRounding

theorem isRounding_div {num den rounded : ℕ} (pos : 0 < den)
    (above : 2 * num ≤ 2 * (rounded * den) + den) (below : 2 * (rounded * den) ≤ 2 * num + den)
    (tie : 2 * num = 2 * (rounded * den) + den ∨ 2 * (rounded * den) = 2 * num + den →
      rounded % 2 = 0) :
    IsRounding ((num : ℚ) / den) rounded := by
  have posCast : (0 : ℚ) < den := by exact_mod_cast pos
  have cancel : (num : ℚ) / den * den = num := div_mul_cancel₀ _ posCast.ne'
  have aboveCast : 2 * (num : ℚ) ≤ 2 * (rounded * den) + den := by exact_mod_cast above
  have belowCast : 2 * ((rounded : ℚ) * den) ≤ 2 * num + den := by exact_mod_cast below
  refine ⟨?_, ?_, fun halved => tie (halved.imp (fun half => ?_) fun half => ?_)⟩
  · rw [div_le_iff₀ posCast]
    linarith
  · refine le_of_mul_le_mul_right ?_ posCast
    linarith
  · have scaled := congrArg (· * (den : ℚ)) half
    simp only [cancel] at scaled
    have cast : 2 * (num : ℚ) = 2 * (rounded * den) + den := by linarith
    exact_mod_cast cast
  · have scaled := congrArg (· * (den : ℚ)) half
    simp only [add_mul, cancel] at scaled
    have cast : 2 * ((rounded : ℚ) * den) = 2 * num + den := by linarith
    exact_mod_cast cast

theorem isRounding_roundHalfEven {den : ℕ} (num : ℕ) (pos : 0 < den) :
    IsRounding ((num : ℚ) / den) (roundHalfEven num den) := by
  have parts : num / den * den + num % den = num := Nat.div_add_mod' num den
  have rest_lt := Nat.mod_lt num pos
  have next : (num / den + 1) * den = num / den * den + den := Nat.succ_mul _ _
  unfold roundHalfEven
  dsimp only
  split
  next less => exact isRounding_div pos (by omega) (by omega) (by omega)
  next =>
    split
    next greater => exact isRounding_div pos (by omega) (by omega) (by omega)
    next =>
      split
      next even => exact isRounding_div pos (by omega) (by omega) fun _ => even
      next odd => exact isRounding_div pos (by omega) (by omega) fun _ => by omega

/-! ## Doubles -/

namespace Binary64

def toRat (x : Binary64) : ℚ :=
  x.mantissa * 2 ^ x.exponent

/-- At the exponent the rational has a mantissa of 53 bits, or one of fewer bits at the least
exponent. -/
structure InBinade (value : ℚ) (exponent : ℤ) : Prop where
  least : minExponent ≤ exponent
  lt : value < 2 ^ (exponent + 53)
  ge : exponent = minExponent ∨ 2 ^ (exponent + 52) ≤ value

/-- A double nearest to a rational. -/
def IsNearest (value rounded : ℚ) : Prop :=
  ∃ (exponent : ℤ) (mantissa : ℕ), InBinade value exponent ∧
    IsRounding (value / 2 ^ exponent) mantissa ∧ rounded = mantissa * 2 ^ exponent

variable {value other rounded otherRounded : ℚ}

theorem pow_mul_zpow (count : ℕ) (exponent : ℤ) :
    (2 : ℚ) ^ count * 2 ^ exponent = 2 ^ (exponent + count) := by
  rw [← zpow_natCast, ← zpow_add₀ two_ne_zero, add_comm]

theorem zpow_of_nonneg {exponent : ℤ} (nonneg : 0 ≤ exponent) :
    (2 : ℚ) ^ exponent = (2 ^ exponent.toNat : ℕ) := by
  lift exponent to ℕ using nonneg
  rw [Int.toNat_natCast, Nat.cast_pow, Nat.cast_ofNat, zpow_natCast]

theorem zpow_of_negative {exponent : ℤ} (negative : ¬ 0 ≤ exponent) :
    (2 : ℚ) ^ exponent = ((2 ^ (-exponent).toNat : ℕ) : ℚ)⁻¹ := by
  rw [← zpow_of_nonneg (by omega), zpow_neg, inv_inv]

theorem InBinade.le_of_le {exponent otherExponent : ℤ} (first : InBinade value exponent)
    (second : InBinade other otherExponent) (le : value ≤ other) : exponent ≤ otherExponent := by
  rcases first.ge with lowest | ge
  · rw [lowest]
    exact second.least
  · have less : (2 : ℚ) ^ (exponent + 52) < 2 ^ (otherExponent + 53) :=
      ge.trans_lt (le.trans_lt second.lt)
    have := (zpow_lt_zpow_iff_right₀ (by norm_num : (1 : ℚ) < 2)).mp less
    omega

theorem IsNearest.mono (first : IsNearest value rounded) (second : IsNearest other otherRounded)
    (le : value ≤ other) : rounded ≤ otherRounded := by
  obtain ⟨exponent, mantissa, binade, near, rfl⟩ := first
  obtain ⟨otherExponent, otherMantissa, otherBinade, otherNear, rfl⟩ := second
  have unit : (0 : ℚ) < 2 ^ exponent := by positivity
  have otherUnit : (0 : ℚ) < 2 ^ otherExponent := by positivity
  rcases (binade.le_of_le otherBinade le).eq_or_lt with rfl | less
  · have mantissas := near.mono otherNear (div_le_div_of_nonneg_right le unit.le)
    have cast : (mantissa : ℚ) ≤ otherMantissa := by exact_mod_cast mantissas
    exact mul_le_mul_of_nonneg_right cast unit.le
  · -- The power of two below the greater binade separates the two doubles.
    have above : mantissa ≤ 2 ^ 53 := by
      refine near.mono (.natCast (2 ^ 53)) ((div_le_iff₀ unit).mpr ?_)
      rw [Nat.cast_pow, Nat.cast_ofNat, pow_mul_zpow]
      exact binade.lt.le
    have below : 2 ^ 52 ≤ otherMantissa := by
      refine IsRounding.mono (.natCast (2 ^ 52)) otherNear ((le_div_iff₀ otherUnit).mpr ?_)
      rw [Nat.cast_pow, Nat.cast_ofNat, pow_mul_zpow]
      have least := binade.least
      exact otherBinade.ge.resolve_left (by omega)
    have aboveCast : (mantissa : ℚ) ≤ 2 ^ 53 := by exact_mod_cast above
    have belowCast : (2 : ℚ) ^ 52 ≤ otherMantissa := by exact_mod_cast below
    calc (mantissa : ℚ) * 2 ^ exponent
        ≤ 2 ^ 53 * 2 ^ exponent := mul_le_mul_of_nonneg_right aboveCast unit.le
      _ = 2 ^ (exponent + 53) := pow_mul_zpow 53 exponent
      _ ≤ 2 ^ (otherExponent + 52) := zpow_le_zpow_right₀ one_le_two (by omega)
      _ = 2 ^ 52 * 2 ^ otherExponent := (pow_mul_zpow 52 otherExponent).symm
      _ ≤ otherMantissa * 2 ^ otherExponent := mul_le_mul_of_nonneg_right belowCast otherUnit.le

section

variable {num den : ℕ} {exponent : ℤ}

theorem scaled_pos (pos : 0 < den) : 0 < (scaled num den exponent).2 := by
  unfold scaled
  split
  · exact Nat.mul_pos pos (Nat.two_pow_pos _)
  · exact pos

theorem scaled_eq : ((scaled num den exponent).1 : ℚ) / (scaled num den exponent).2 =
    num / den / 2 ^ exponent := by
  unfold scaled
  split
  next nonneg => rw [zpow_of_nonneg nonneg, div_div, Nat.cast_mul]
  next negative =>
    rw [zpow_of_negative negative, div_inv_eq_mul, Nat.cast_mul, div_mul_eq_mul_div]

/-- The lengths of numerator and denominator tell the binade up to one. -/
theorem log2_bounds (numPos : 0 < num) (denPos : 0 < den) :
    (2 : ℚ) ^ ((num.log2 : ℤ) - den.log2 - 1) ≤ num / den ∧
      (num : ℚ) / den < 2 ^ ((num.log2 : ℤ) - den.log2 + 1) := by
  have numLow : (2 : ℚ) ^ (num.log2 : ℤ) ≤ num := by
    rw [zpow_natCast]
    exact_mod_cast Nat.log2_self_le numPos.ne'
  have numHigh : (num : ℚ) < 2 ^ ((num.log2 : ℤ) + 1) := by
    exact_mod_cast Nat.lt_log2_self
  have denLow : (2 : ℚ) ^ (den.log2 : ℤ) ≤ den := by
    rw [zpow_natCast]
    exact_mod_cast Nat.log2_self_le denPos.ne'
  have denHigh : (den : ℚ) < 2 ^ ((den.log2 : ℤ) + 1) := by
    exact_mod_cast Nat.lt_log2_self
  have denCast : (0 : ℚ) < den := by exact_mod_cast denPos
  constructor
  · rw [le_div_iff₀ denCast]
    calc (2 : ℚ) ^ ((num.log2 : ℤ) - den.log2 - 1) * den
        ≤ 2 ^ ((num.log2 : ℤ) - den.log2 - 1) * 2 ^ ((den.log2 : ℤ) + 1) :=
          mul_le_mul_of_nonneg_left denHigh.le (by positivity)
      _ = 2 ^ (num.log2 : ℤ) := by rw [← zpow_add₀ two_ne_zero]; congr 1; omega
      _ ≤ num := numLow
  · rw [div_lt_iff₀ denCast]
    calc (num : ℚ) < 2 ^ ((num.log2 : ℤ) + 1) := numHigh
      _ = 2 ^ ((num.log2 : ℤ) - den.log2 + 1) * 2 ^ (den.log2 : ℤ) := by
          rw [← zpow_add₀ two_ne_zero]; congr 1; omega
      _ ≤ 2 ^ ((num.log2 : ℤ) - den.log2 + 1) * den :=
          mul_le_mul_of_nonneg_left denLow (by positivity)

theorem scaled_div_lt_iff (pos : 0 < den) :
    (scaled num den exponent).1 / (scaled num den exponent).2 < 2 ^ 52 ↔
      (num : ℚ) / den < 2 ^ (exponent + 52) := by
  have unit : (0 : ℚ) < 2 ^ exponent := by positivity
  have bottom : (0 : ℚ) < (scaled num den exponent).2 := by exact_mod_cast scaled_pos pos
  have shifted : (2 : ℚ) ^ 52 * 2 ^ exponent = 2 ^ (exponent + 52) := pow_mul_zpow 52 exponent
  rw [← shifted, ← div_lt_iff₀ unit, ← scaled_eq, div_lt_iff₀ bottom,
    Nat.div_lt_iff_lt_mul (scaled_pos pos)]
  exact_mod_cast Iff.rfl

/-- The guess from the lengths is right or one too great, and the quotient at the guess tells. -/
theorem exists_scale_eq_max (numPos : 0 < num) (denPos : 0 < den) :
    ∃ exact : ℤ, scale num den = max minExponent exact ∧
      (2 : ℚ) ^ (exact + 52) ≤ num / den ∧ (num : ℚ) / den < 2 ^ (exact + 53) := by
  obtain ⟨low, high⟩ := log2_bounds numPos denPos
  obtain ⟨guess, guessed⟩ : ∃ guess : ℤ, guess = num.log2 - den.log2 - 52 := ⟨_, rfl⟩
  have unfolded : scale num den = max minExponent
      (if (scaled num den guess).1 / (scaled num den guess).2 < 2 ^ 52 then guess - 1
        else guess) := by
    rw [guessed]
    rfl
  rw [unfolded]
  split
  next small =>
    rw [scaled_div_lt_iff denPos] at small
    refine ⟨guess - 1, rfl, ?_, ?_⟩
    · rw [show guess - 1 + 52 = num.log2 - den.log2 - 1 by omega]
      exact low
    · rw [show guess - 1 + 53 = guess + 52 by omega]
      exact small
  next great =>
    rw [scaled_div_lt_iff denPos, not_lt] at great
    refine ⟨guess, rfl, great, ?_⟩
    rw [show guess + 53 = num.log2 - den.log2 + 1 by omega]
    exact high

theorem inBinade_scale (numPos : 0 < num) (denPos : 0 < den) :
    InBinade ((num : ℚ) / den) (scale num den) := by
  obtain ⟨exact, scaleExact, low, high⟩ := exists_scale_eq_max numPos denPos
  rw [scaleExact]
  refine ⟨le_max_left _ _, ?_, ?_⟩
  · exact high.trans_le (zpow_le_zpow_right₀ one_le_two (by omega))
  · rcases max_choice minExponent exact with lowest | above
    · exact .inl lowest
    · rw [above]
      exact .inr low

theorem isNearest_nearest (num : ℕ) (denPos : 0 < den) :
    IsNearest ((num : ℚ) / den) (nearest num den).toRat := by
  unfold nearest
  split
  next zero =>
    rw [zero, Nat.cast_zero, zero_div]
    refine ⟨minExponent, 0, ⟨le_rfl, by positivity, .inl rfl⟩, ?_, rfl⟩
    rw [zero_div]
    exact .natCast 0
  next nonzero =>
    have numPos := Nat.pos_of_ne_zero nonzero
    have near : IsRounding _ (roundHalfEven (scaled num den (scale num den)).1
        (scaled num den (scale num den)).2) :=
      isRounding_roundHalfEven _ (scaled_pos denPos)
    rw [scaled_eq] at near
    refine ⟨scale num den, _, inBinade_scale numPos denPos, near, ?_⟩
    dsimp only
    split
    next carried =>
      rw [carried, toRat, Nat.cast_pow, Nat.cast_pow, Nat.cast_ofNat, pow_mul_zpow, pow_mul_zpow]
      congr 1
      dsimp only
      omega
    next => rfl

end

/-! ## Operations -/

theorem toRat_ofNat_mono {n m : ℕ} (le : n ≤ m) : (ofNat n).toRat ≤ (ofNat m).toRat := by
  refine (isNearest_nearest n one_pos).mono (isNearest_nearest m one_pos) ?_
  rw [Nat.cast_one, div_one, div_one]
  exact_mod_cast le

theorem toRat_ofNat_pos {n : ℕ} (pos : 0 < n) : 0 < (ofNat n).toRat := by
  have one : ofNat 1 = ⟨2 ^ 52, -52⟩ := by decide +kernel
  refine lt_of_lt_of_le ?_ (toRat_ofNat_mono pos)
  rw [one, toRat]
  positivity

variable {left right divisor : Binary64}

theorem mantissa_pos (pos : 0 < divisor.toRat) : 0 < divisor.mantissa := by
  refine Nat.pos_of_ne_zero fun zero => ?_
  rw [toRat, zero, Nat.cast_zero, zero_mul] at pos
  exact lt_irrefl _ pos

theorem isNearest_div (left : Binary64) (pos : 0 < divisor.mantissa) :
    IsNearest (left.toRat / divisor.toRat) (left.div divisor).toRat := by
  have quotient : left.toRat / divisor.toRat =
      (left.mantissa : ℚ) / divisor.mantissa * 2 ^ (left.exponent - divisor.exponent) := by
    rw [toRat, toRat, zpow_sub₀ two_ne_zero, div_mul_div_comm]
  unfold div
  dsimp only
  rw [quotient]
  split
  next nonneg =>
    rw [zpow_of_nonneg nonneg, div_mul_eq_mul_div, ← Nat.cast_mul]
    exact isNearest_nearest _ pos
  next negative =>
    rw [zpow_of_negative negative, ← div_eq_mul_inv, div_div, ← Nat.cast_mul]
    exact isNearest_nearest _ (Nat.mul_pos pos (Nat.two_pow_pos _))

theorem toRat_div_mono (le : left.toRat ≤ right.toRat) (pos : 0 < divisor.toRat) :
    (left.div divisor).toRat ≤ (right.div divisor).toRat := by
  have mantissa := mantissa_pos pos
  exact (isNearest_div left mantissa).mono (isNearest_div right mantissa)
    (div_le_div_of_nonneg_right le pos.le)

theorem isRounding_hundredths (x : Binary64) : IsRounding (100 * x.toRat) x.hundredths := by
  unfold hundredths toRat
  rw [← mul_assoc, show (100 : ℚ) * x.mantissa = (100 * x.mantissa : ℕ) by push_cast; rfl]
  split
  next nonneg =>
    rw [zpow_of_nonneg nonneg, ← Nat.cast_mul]
    exact .natCast _
  next negative =>
    rw [zpow_of_negative negative, ← div_eq_mul_inv]
    exact isRounding_roundHalfEven _ (Nat.two_pow_pos _)

theorem hundredths_mono (le : left.toRat ≤ right.toRat) : left.hundredths ≤ right.hundredths :=
  (isRounding_hundredths left).mono (isRounding_hundredths right) (by linarith)

end Binary64

end Sharding.Number
