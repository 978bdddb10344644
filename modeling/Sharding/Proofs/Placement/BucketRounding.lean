import Mathlib.Algebra.Order.Floor.Semifield
import Sharding.Proofs.Number.Precision
import Sharding.Proofs.Placement.Buckets

/-!
# Rounding of buckets

How far the bucket of a datetime is from the exact number of bucket lengths since the lower end.
The quotient in double precision, its text with two decimal places and the double that the text is
read as are each off by little. Together they move a datetime at most from the first hundredth of
a bucket into the bucket before.
-/

set_option autoImplicit false

namespace Sharding

open Calendar (DateTime)
open Number (Binary64)
open Number.Binary64 (IsNearest toRat_ofNat toRat_ofNat_mono toRat_ofNat_pos isNearest_natCast)

namespace Interval

/-! ## Quotients -/

/-- No two datetimes are farther apart. -/
def mostSeconds : ℕ := 20000000000000

variable {elapsed length : ℕ}

theorem isNearest_quotient (le : elapsed ≤ mostSeconds) (pos : 0 < length) :
    IsNearest (elapsed / (Binary64.ofNat length).toRat)
      ((Binary64.ofNat elapsed).div (Binary64.ofNat length)).toRat := by
  have near := Number.Binary64.isNearest_div (Binary64.ofNat elapsed)
    (Number.Binary64.mantissa_pos (toRat_ofNat_pos pos))
  rwa [toRat_ofNat (by unfold mostSeconds at le; omega)] at near

/-- The hundredths of the quotient as the nearest whole number. -/
theorem isRounding_quotientHundredths (elapsed length : ℕ) :
    Number.IsRounding (100 * ((Binary64.ofNat elapsed).div (Binary64.ofNat length)).toRat)
      (quotientHundredths elapsed length) :=
  Number.Binary64.isRounding_hundredths _

theorem quotientHundredths_le {most : ℕ} (le : elapsed ≤ mostSeconds) (pos : 0 < length)
    (fits : most < 2 ^ 53) (quotient : (elapsed : ℚ) / (Binary64.ofNat length).toRat ≤ most) :
    quotientHundredths elapsed length ≤ 100 * most := by
  have rounded := (isNearest_quotient le pos).mono (isNearest_natCast fits) quotient
  refine (isRounding_quotientHundredths elapsed length).mono (.natCast (100 * most)) ?_
  rw [Nat.cast_mul, Nat.cast_ofNat]
  linarith

theorem le_quotientHundredths {least : ℕ} (le : elapsed ≤ mostSeconds) (pos : 0 < length)
    (fits : least < 2 ^ 53) (quotient : (least : ℚ) ≤ elapsed / (Binary64.ofNat length).toRat) :
    100 * least ≤ quotientHundredths elapsed length := by
  have rounded := (isNearest_natCast fits).mono (isNearest_quotient le pos) quotient
  refine Number.IsRounding.mono (.natCast (100 * least))
    (isRounding_quotientHundredths elapsed length) ?_
  rw [Nat.cast_mul, Nat.cast_ofNat]
  linarith

theorem one_le_toRat_ofNat (pos : 0 < length) : 1 ≤ (Binary64.ofNat length).toRat := by
  have one := toRat_ofNat_mono pos
  rwa [toRat_ofNat (by decide), Nat.cast_one] at one

/-- Lengths of up to 53 bits are exact, and longer ones are longer than any time. -/
theorem toRat_length (length : ℕ) :
    length < 2 ^ 53 ∧ (Binary64.ofNat length).toRat = length ∨
      2 ^ 53 ≤ length ∧ (100 * mostSeconds : ℚ) < (Binary64.ofNat length).toRat := by
  rcases Nat.lt_or_ge length (2 ^ 53) with short | long
  · exact .inl ⟨short, toRat_ofNat short⟩
  · refine .inr ⟨long, ?_⟩
    have greater := toRat_ofNat_mono (show 2 ^ 53 - 1 ≤ length by omega)
    rw [toRat_ofNat (by decide)] at greater
    refine lt_of_lt_of_le ?_ greater
    norm_num [mostSeconds]

/-! ## Buckets without an end -/

/-- The bucket of some seconds, if there were buckets without an end. -/
def roundedUp (elapsed length : ℕ) : ℕ :=
  (quotientHundredths elapsed length + 99) / 100

theorem floor_le_roundedUp (le : elapsed ≤ mostSeconds) (pos : 0 < length) :
    ⌊(elapsed : ℚ) / length⌋₊ ≤ roundedUp elapsed length := by
  have posCast : (0 : ℚ) < length := by exact_mod_cast pos
  rcases toRat_length length with ⟨_, same⟩ | ⟨long, _⟩
  · have floor := Nat.floor_le (show 0 ≤ (elapsed : ℚ) / length by positivity)
    have fits : ⌊(elapsed : ℚ) / length⌋₊ ≤ elapsed := by
      rw [Nat.floor_div_eq_div]
      exact Nat.div_le_self _ _
    have hundredths := le_quotientHundredths le pos
      (show ⌊(elapsed : ℚ) / length⌋₊ < 2 ^ 53 by unfold mostSeconds at le; omega) (by rwa [same])
    unfold roundedUp
    omega
  · have less : elapsed < length := by
      unfold mostSeconds at le
      omega
    rw [Nat.floor_div_eq_div, Nat.div_eq_of_lt less]
    exact Nat.zero_le _

theorem quotientHundredths_zero (pos : 0 < length) : quotientHundredths 0 length = 0 := by
  have most : quotientHundredths 0 length ≤ 100 * 0 :=
    quotientHundredths_le (Nat.zero_le mostSeconds) pos (by decide)
      (by rw [Nat.cast_zero, zero_div])
  omega

theorem roundedUp_le_ceil (le : elapsed ≤ mostSeconds) (pos : 0 < length) :
    roundedUp elapsed length ≤ ⌈(elapsed : ℚ) / length⌉₊ := by
  have posCast : (0 : ℚ) < length := by exact_mod_cast pos
  have oneLe := one_le_toRat_ofNat pos
  suffices quotient : (elapsed : ℚ) / (Binary64.ofNat length).toRat ≤ ⌈(elapsed : ℚ) / length⌉₊ by
    have fits : ⌈(elapsed : ℚ) / length⌉₊ ≤ elapsed := by
      refine Nat.ceil_le.mpr (div_le_self (Nat.cast_nonneg _) ?_)
      exact_mod_cast pos
    have hundredths := quotientHundredths_le le pos
      (show _ < 2 ^ 53 by unfold mostSeconds at le; omega) quotient
    unfold roundedUp
    omega
  rcases toRat_length length with ⟨_, exact⟩ | ⟨long, great⟩
  · rw [exact]
    exact Nat.le_ceil _
  · rcases Nat.eq_zero_or_pos elapsed with rfl | some
    · rw [Nat.cast_zero, zero_div, zero_div]
      exact Nat.cast_nonneg _
    · have one : (1 : ℚ) ≤ ⌈(elapsed : ℚ) / length⌉₊ := by
        have quotientPos : 0 < (elapsed : ℚ) / length := by positivity
        exact_mod_cast Nat.ceil_pos.mpr quotientPos
      have leCast : (elapsed : ℚ) ≤ mostSeconds := by exact_mod_cast le
      refine le_trans ?_ one
      rw [div_le_one (by linarith)]
      linarith

/-- The quotient in double precision is off by less than half a hundredth. -/
theorem lt_quotientHundredths (le : elapsed ≤ mostSeconds) (pos : 0 < length)
    (exact : (Binary64.ofNat length).toRat = length) :
    100 * ((elapsed : ℚ) / length) - 1 < quotientHundredths elapsed length := by
  have near := isNearest_quotient le pos
  rw [exact] at near
  have small : (elapsed : ℚ) / length < 2 ^ ((-8 : ℤ) + 53) := by
    have whole : (1 : ℚ) ≤ length := by exact_mod_cast pos
    have leCast : (elapsed : ℚ) ≤ mostSeconds := by exact_mod_cast le
    have most : (mostSeconds : ℚ) < 2 ^ ((-8 : ℤ) + 53) := by norm_num [mostSeconds]
    exact (div_le_self (Nat.cast_nonneg _) whole).trans_lt (leCast.trans_lt most)
  have close := near.abs_sub_le (by decide) small
  rw [abs_le] at close
  norm_num at close
  have rounded := (isRounding_quotientHundredths elapsed length).above
  linarith

/-- From the second hundredth of a bucket on, and at its end, seconds are in the bucket itself. -/
theorem ceil_le_roundedUp (le : elapsed ≤ mostSeconds) (pos : 0 < length)
    (late : Int.fract ((elapsed : ℚ) / length) = 0 ∨
      1 / 100 ≤ Int.fract ((elapsed : ℚ) / length)) :
    ⌈(elapsed : ℚ) / length⌉₊ ≤ roundedUp elapsed length := by
  have nonneg : 0 ≤ (elapsed : ℚ) / length := by positivity
  have parts : (⌊(elapsed : ℚ) / length⌋₊ : ℚ) + Int.fract ((elapsed : ℚ) / length) =
      elapsed / length := by
    rw [natCast_floor_eq_intCast_floor nonneg, Int.floor_add_fract]
  have floor := floor_le_roundedUp le pos
  rcases late with whole | begun
  · rw [whole, add_zero] at parts
    rwa [← parts, Nat.ceil_natCast]
  · rcases toRat_length length with ⟨_, exact⟩ | ⟨long, _⟩
    · have hundredths := lt_quotientHundredths le pos exact
      have begunCast : ((100 * ⌊(elapsed : ℚ) / length⌋₊ : ℕ) : ℚ) <
          quotientHundredths elapsed length := by
        push_cast
        linarith
      have begunHundredths :
          100 * ⌊(elapsed : ℚ) / length⌋₊ < quotientHundredths elapsed length := by
        exact_mod_cast begunCast
      refine (Nat.ceil_le_floor_add_one _).trans ?_
      unfold roundedUp
      omega
    · have longCast : (2 : ℚ) ^ 53 ≤ length := by exact_mod_cast long
      have leCast : (elapsed : ℚ) ≤ mostSeconds := by exact_mod_cast le
      have short : (elapsed : ℚ) / length < 1 / 100 := by
        have most : (mostSeconds : ℚ) < 1 / 100 * 2 ^ 53 := by norm_num [mostSeconds]
        rw [div_lt_iff₀ (by linarith)]
        linarith
      have floorNonneg : (0 : ℚ) ≤ ⌊(elapsed : ℚ) / length⌋₊ := Nat.cast_nonneg _
      linarith

/-- No bucket is so late that reading the text with two decimal places as a double again would
change it. -/
theorem roundedUp_eq_ceil (le : elapsed ≤ mostSeconds) (pos : 0 < length) :
    roundedUp elapsed length =
      ⌈(Binary64.nearest (quotientHundredths elapsed length) 100).toRat⌉₊ := by
  have bound : quotientHundredths elapsed length ≤ 100 * elapsed := by
    refine quotientHundredths_le le pos (by unfold mostSeconds at le; omega) ?_
    exact div_le_self (Nat.cast_nonneg _) (one_le_toRat_ofNat pos)
  refine (Number.Binary64.ceil_nearest_hundredths ?_).symm
  unfold mostSeconds at le
  omega

/-! ## Buckets of datetimes -/

variable {interval : Interval} {moment : DateTime}

theorem length_pos (interval : Interval) : 0 < interval.seconds.toInt.toNat := by
  have seconds := interval.seconds_pos
  omega

theorem toNat_secondsBetween_le (start finish : DateTime) :
    (DateTime.secondsBetween start finish).toNat ≤ mostSeconds := by
  have le := DateTime.secondsBetween_le start finish
  unfold mostSeconds
  omega

theorem bucketOf_eq (interval : Interval) (moment : DateTime) :
    interval.bucketOf moment =
      min (roundedUp (DateTime.secondsBetween interval.lower moment).toNat
        interval.seconds.toInt.toNat) (interval.bucketCount - 1) :=
  rfl

/-- The buckets between the ends have room for the seconds between the ends. -/
theorem span_le (interval : Interval) :
    interval.span ≤ (interval.bucketCount - 2) * interval.seconds.toInt.toNat := by
  have parts := Nat.div_add_mod' interval.span interval.seconds.toInt.toNat
  have rest := Nat.mod_lt interval.span interval.length_pos
  unfold bucketCount
  dsimp only
  split
  next => rw [Nat.add_zero, Nat.add_sub_cancel]; omega
  next => rw [Nat.add_sub_cancel, Nat.succ_mul]; omega

theorem bucketOf_eq_zero (before : DateTime.secondsBetween interval.lower moment ≤ 0) :
    interval.bucketOf moment = 0 := by
  rw [bucketOf_eq, Int.toNat_of_nonpos before, roundedUp,
    quotientHundredths_zero interval.length_pos]
  exact Nat.zero_min _

theorem ceil_le_of_secondsBetween_le
    (within : (DateTime.secondsBetween interval.lower moment).toNat ≤ interval.span) :
    ⌈((DateTime.secondsBetween interval.lower moment).toNat : ℚ) /
      interval.seconds.toInt.toNat⌉₊ ≤ interval.bucketCount - 2 := by
  have posCast : (0 : ℚ) < interval.seconds.toInt.toNat := by exact_mod_cast interval.length_pos
  rw [Nat.ceil_le, div_le_iff₀ posCast]
  exact_mod_cast within.trans interval.span_le

theorem two_le_bucketCount (interval : Interval) : 2 ≤ interval.bucketCount :=
  Nat.le_add_left 2 _

/-- Up to the seconds of the upper end no bucket is cut off. -/
theorem bucketOf_eq_roundedUp
    (within : (DateTime.secondsBetween interval.lower moment).toNat ≤ interval.span) :
    interval.bucketOf moment =
      roundedUp (DateTime.secondsBetween interval.lower moment).toNat
        interval.seconds.toInt.toNat := by
  have most := roundedUp_le_ceil (toNat_secondsBetween_le interval.lower moment) interval.length_pos
  have ceil := ceil_le_of_secondsBetween_le within
  rw [bucketOf_eq]
  omega

/-- The exact number of bucket lengths from the lower end to a datetime. -/
def lengthsTo (interval : Interval) (moment : DateTime) : ℚ :=
  DateTime.secondsBetween interval.lower moment / interval.seconds.toInt

theorem lengthsTo_eq (after : 0 < DateTime.secondsBetween interval.lower moment) :
    interval.lengthsTo moment = ((DateTime.secondsBetween interval.lower moment).toNat : ℚ) /
      interval.seconds.toInt.toNat := by
  have seconds : ((DateTime.secondsBetween interval.lower moment).toNat : ℤ) =
      DateTime.secondsBetween interval.lower moment := Int.toNat_of_nonneg after.le
  have length : (interval.seconds.toInt.toNat : ℤ) = interval.seconds.toInt :=
    Int.toNat_of_nonneg interval.seconds_pos.le
  rw [lengthsTo, ← seconds, ← length, Int.cast_natCast, Int.cast_natCast, Int.toNat_natCast,
    Int.toNat_natCast]

/-- In the last bucket there are only datetimes that are more seconds from the lower end than the
upper end is. -/
theorem span_lt_of_bucketOf_eq_last (last : interval.bucketOf moment = interval.bucketCount - 1) :
    interval.span < (DateTime.secondsBetween interval.lower moment).toNat := by
  by_contra within
  have most := roundedUp_le_ceil (toNat_secondsBetween_le interval.lower moment) interval.length_pos
  have ceil := ceil_le_of_secondsBetween_le (Nat.le_of_not_lt within)
  have buckets := interval.two_le_bucketCount
  rw [bucketOf_eq_roundedUp (Nat.le_of_not_lt within)] at last
  omega

theorem after_or_folds_of_span_lt (whole : interval.lower.time.clockNano = 0)
    (farther : interval.span < (DateTime.secondsBetween interval.lower moment).toNat) :
    interval.upper < moment ∨ DateTime.Folds interval.lower moment interval.upper := by
  by_contra neither
  rw [not_or] at neither
  obtain ⟨notAfter, kept⟩ := neither
  have nearer : (DateTime.wholeSeconds interval.lower moment).toNat ≤
      (DateTime.wholeSeconds interval.lower interval.upper).toNat :=
    (DateTime.toNat_wholeSeconds_le_iff notAfter).mpr kept
  rw [← DateTime.toNat_secondsBetween whole, ← DateTime.toNat_secondsBetween whole] at nearer
  unfold span at farther
  omega

/-- A datetime is in no bucket up to the lower end. From there to the upper end its bucket is the
exact number of lengths rounded down or up, rounded up at the end of a bucket and from its second
hundredth on, and never the last bucket. That one holds datetimes after the upper end, and besides
only a leap second that folds onto it. The bucket is the one that comes from reading the text of
the quotient as a double. -/
theorem buckets_round_within_hundredth {properties : Properties}
    (made : ofProperties? properties = .ok interval) (moment : DateTime) :
    (DateTime.secondsBetween interval.lower moment ≤ 0 → interval.bucketOf moment = 0) ∧
    (0 < DateTime.secondsBetween interval.lower moment →
      DateTime.secondsBetween interval.lower moment ≤
        DateTime.secondsBetween interval.lower interval.upper →
      (interval.bucketOf moment = ⌊interval.lengthsTo moment⌋₊ ∨
        interval.bucketOf moment = ⌈interval.lengthsTo moment⌉₊) ∧
      (Int.fract (interval.lengthsTo moment) = 0 ∨
        1 / 100 ≤ Int.fract (interval.lengthsTo moment) →
        interval.bucketOf moment = ⌈interval.lengthsTo moment⌉₊) ∧
      interval.bucketOf moment ≤ interval.bucketCount - 2) ∧
    (interval.bucketOf moment = interval.bucketCount - 1 →
      interval.upper < moment ∨ DateTime.Folds interval.lower moment interval.upper) ∧
    interval.bucketOf moment =
      min ⌈(Binary64.nearest (quotientHundredths
          (DateTime.secondsBetween interval.lower moment).toNat interval.seconds.toInt.toNat)
          100).toRat⌉₊ (interval.bucketCount - 1) := by
  have seconds := toNat_secondsBetween_le interval.lower moment
  have length := interval.length_pos
  refine ⟨bucketOf_eq_zero, fun after within => ?_, fun last => ?_, ?_⟩
  · have withinSpan : (DateTime.secondsBetween interval.lower moment).toNat ≤ interval.span :=
      Int.toNat_le_toNat within
    have floor := floor_le_roundedUp seconds length
    have ceil := roundedUp_le_ceil seconds length
    have next := Nat.ceil_le_floor_add_one
      ((((DateTime.secondsBetween interval.lower moment).toNat : ℚ)) /
        interval.seconds.toInt.toNat)
    have room := ceil_le_of_secondsBetween_le withinSpan
    rw [lengthsTo_eq after, bucketOf_eq_roundedUp withinSpan]
    refine ⟨by omega, fun late => ?_, ceil.trans room⟩
    exact le_antisymm ceil (ceil_le_roundedUp seconds length late)
  · exact after_or_folds_of_span_lt (clockNano_lower made) (span_lt_of_bucketOf_eq_last last)
  · rw [bucketOf_eq, roundedUp_eq_ceil seconds length]

private def dayProperties : Properties :=
  .ofList [("datetime-lower", "2020-01-01 00:00:00"), ("datetime-upper", "2020-01-02 00:00:00"),
    ("sharding-seconds", "3600")]

theorem day_buckets_round_within_hundredth :
    ∃ interval, ofProperties? dayProperties = .ok interval ∧
      (∃ moment ∈ DateTime.ofText? "2020-01-01 05:30:00", interval.lengthsTo moment = 11 / 2 ∧
        interval.bucketOf moment = ⌈interval.lengthsTo moment⌉₊ ∧
        interval.bucketOf moment ≤ interval.bucketCount - 2) ∧
      ∃ late ∈ DateTime.ofText? "2020-01-02 02:00:00",
        interval.bucketOf late = interval.bucketCount - 1 ∧ interval.upper < late := by
  have run : ∃ interval, ofProperties? dayProperties = .ok interval ∧
      interval.lower.time.isLeap = false ∧ interval.seconds.toInt = 3600 ∧
      DateTime.secondsBetween interval.lower interval.upper = 86400 ∧
      (∃ moment ∈ DateTime.ofText? "2020-01-01 05:30:00",
        DateTime.secondsBetween interval.lower moment = 19800) ∧
      ∃ late ∈ DateTime.ofText? "2020-01-02 02:00:00",
        interval.bucketOf late = interval.bucketCount - 1 := by
    refine exists_of_decided ?_
    decide +kernel
  obtain ⟨interval, made, plain, hour, day, ⟨moment, read, seconds⟩, late, lateRead, last⟩ := run
  obtain ⟨_, between, _⟩ := buckets_round_within_hundredth made moment
  obtain ⟨_, _, lastAfter, _⟩ := buckets_round_within_hundredth made late
  have lengths : interval.lengthsTo moment = 11 / 2 := by
    rw [lengthsTo, seconds, hour]
    norm_num
  obtain ⟨_, rounded, within⟩ := between (by omega) (by omega)
  refine ⟨interval, made, ⟨moment, read, lengths, rounded (.inr ?_), within⟩, late, lateRead, last,
    (lastAfter last).resolve_right (DateTime.not_folds plain)⟩
  rw [lengths, show (11 / 2 : ℚ) = (5 : ℤ) + 1 / 2 by norm_num, Int.fract_intCast_add,
    Int.fract_eq_self.mpr (by norm_num)]
  norm_num

private def lastMinuteProperties : Properties :=
  .ofList [("datetime-lower", "2016-12-31 23:58:60"), ("datetime-upper", "2017-01-01 00:00:00"),
    ("sharding-seconds", "60")]

/-- A leap second before the upper end is more seconds from the lower end than the upper end is. -/
theorem leap_second_reaches_last_bucket :
    ∃ interval, ofProperties? lastMinuteProperties = .ok interval ∧
      ∃ moment ∈ DateTime.ofText? "2016-12-31 23:59:60",
        interval.lower < moment ∧ moment < interval.upper ∧
          interval.bucketOf moment = interval.bucketCount - 1 := by
  refine exists_of_decided ?_
  decide +kernel

end Interval

end Sharding
