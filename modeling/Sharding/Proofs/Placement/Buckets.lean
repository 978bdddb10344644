import Sharding.Proofs.Calendar.Order
import Sharding.Proofs.Number.Rounding
import Sharding.Proofs.Placement.Numbering

/-!
# Buckets of datetimes

The bucket of a datetime comes from its seconds since the lower end by a division in double
precision, a rounding to hundredths and a rounding up. All of these keep the order of the seconds,
so a range selects the tables of the datetimes in it.
-/

set_option autoImplicit false

namespace Sharding

open Calendar (DateTime)
open Number (Binary64)

/-! ## Order -/

namespace Interval

variable {interval : Interval}

theorem quotientHundredths_mono {elapsed later length : Nat} (le : elapsed ≤ later)
    (pos : 0 < length) : quotientHundredths elapsed length ≤ quotientHundredths later length := by
  have quotients := Binary64.toRat_div_mono (Binary64.toRat_ofNat_mono le)
    (Binary64.toRat_ofNat_pos pos)
  exact Binary64.hundredths_mono quotients

theorem bucketOf_mono {earlier later : DateTime}
    (le : (DateTime.secondsBetween interval.lower earlier).toNat ≤
      (DateTime.secondsBetween interval.lower later).toNat) :
    interval.bucketOf earlier ≤ interval.bucketOf later := by
  have seconds := interval.seconds_pos
  have length : 0 < interval.seconds.toInt.toNat := by omega
  have hundredths := quotientHundredths_mono le length
  unfold bucketOf
  dsimp only
  omega

theorem clockNano_of_requireDateTime {properties : Properties} {key : String} {moment : DateTime}
    (read : requireDateTime properties key = .ok moment) : moment.time.clockNano = 0 := by
  simp only [requireDateTime, bind_eq_ok] at read
  obtain ⟨raw, _, found⟩ := read
  split at found
  next known =>
    cases found
    exact DateTime.clockNano_of_ofText? known
  next => cases found

theorem clockNano_lower {properties : Properties}
    (made : ofProperties? properties = .ok interval) : interval.lower.time.clockNano = 0 := by
  simp only [ofProperties?, bind_eq_ok] at made
  obtain ⟨lower, lowerRead, upper, _, seconds, _, ends⟩ := made
  have whole := clockNano_of_requireDateTime lowerRead
  unfold ofEnds? at ends
  split at ends
  next result own =>
    cases ends
    split at own
    · split at own
      · cases own
        exact whole
      · cases own
    · cases own
  next => cases ends

theorem bucketOf_mono_of_le {earlier later : DateTime}
    (whole : interval.lower.time.clockNano = 0) (ordered : earlier ≤ later)
    (kept : ¬ DateTime.Folds interval.lower earlier later) :
    interval.bucketOf earlier ≤ interval.bucketOf later := by
  refine bucketOf_mono ?_
  rw [DateTime.toNat_secondsBetween whole, DateTime.toNat_secondsBetween whole]
  exact (DateTime.toNat_wholeSeconds_le_iff ordered).mpr kept

/-! ## Ranges -/

/-- A datetime lies between the ends of a range, those that are not open, and no leap second folds
one over the other. -/
structure Surrounds (interval : Interval) (range : ValueRange) (moment : DateTime) : Prop where
  lower : ∀ value ∈ range.lower.endpoint?, ∃ first, value.toDateTime? = some first ∧
    first ≤ moment ∧ ¬ DateTime.Folds interval.lower first moment
  upper : ∀ value ∈ range.upper.endpoint?, ∃ last, value.toDateTime? = some last ∧
    moment ≤ last ∧ ¬ DateTime.Folds interval.lower moment last

theorem exists_endBucket {bound : Bound} {default : Nat} {fact : Nat → Prop} (opened : fact default)
    (ended : ∀ value ∈ bound.endpoint?, ∃ moment, value.toDateTime? = some moment ∧
      fact (interval.bucketOf moment)) :
    ∃ bucket, interval.endBucket bound default = .ok bucket ∧ fact bucket := by
  cases ends : bound.endpoint? with
  | none => exact ⟨default, by rw [endBucket, ends], opened⟩
  | some value =>
      obtain ⟨moment, read, found⟩ := ended value ends
      exact ⟨interval.bucketOf moment, by simp only [endBucket, ends, bucketOfValue, read], found⟩

theorem selectWithin_covers {range : ValueRange} {moment : DateTime} (candidates : List String)
    (column : String) (whole : interval.lower.time.clockNano = 0)
    (surrounds : interval.Surrounds range moment) :
    ∃ places, interval.selectWithin candidates column range = .ok places ∧
      ∀ place ∈ Suffix.find? candidates (interval.bucketOf moment), place ∈ places := by
  obtain ⟨first, firstFound, above⟩ : ∃ first, interval.endBucket range.lower 0 = .ok first ∧
      first ≤ interval.bucketOf moment := by
    refine exists_endBucket (Nat.zero_le _) fun value ends => ?_
    obtain ⟨first, read, ordered, kept⟩ := surrounds.lower value ends
    exact ⟨first, read, bucketOf_mono_of_le whole ordered kept⟩
  obtain ⟨last, lastFound, below⟩ : ∃ last,
      interval.endBucket range.upper (interval.bucketCount - 1) = .ok last ∧
        interval.bucketOf moment ≤ last := by
    refine exists_endBucket (interval.bucketOf_le moment) fun value ends => ?_
    obtain ⟨last, read, ordered, kept⟩ := surrounds.upper value ends
    exact ⟨last, read, bucketOf_mono_of_le whole ordered kept⟩
  refine ⟨Suffix.findAll candidates first last, ?_, fun place found =>
    Suffix.mem_findAll found above below⟩
  rw [selectWithin, firstFound, lastFound]
  rfl

/-- Later datetimes have no lesser buckets, and a range selects the table of every datetime between
its ends. Both fail only for a leap second that folds onto the next day, which takes a lower end in
a leap second of its own. -/
theorem buckets_keep_order {properties : Properties}
    (made : ofProperties? properties = .ok interval) :
    (∀ moment, interval.bucketOf moment ≤ interval.bucketCount - 1) ∧
    (∀ earlier later, earlier ≤ later → ¬ DateTime.Folds interval.lower earlier later →
      interval.bucketOf earlier ≤ interval.bucketOf later) ∧
    ∀ candidates column range value moment, value.toDateTime? = some moment →
      interval.Surrounds range moment →
      ∃ places, interval.placement.selectWithin candidates column range = .ok places ∧
        ∀ place, interval.placement.selectEqual candidates column value = .ok (some place) →
          place ∈ places := by
  have whole := clockNano_lower made
  refine ⟨interval.bucketOf_le, fun _ _ => bucketOf_mono_of_le whole, ?_⟩
  intro candidates column range value moment read surrounds
  obtain ⟨places, selected, covered⟩ := selectWithin_covers candidates column whole surrounds
  refine ⟨places, selected, fun place placed => covered place ?_⟩
  change interval.selectEqual candidates column value = .ok (some place) at placed
  rw [selectEqual_eq_ok candidates column read] at placed
  exact Except.ok.inj placed

private def hourProperties : Properties :=
  .ofList [("datetime-lower", "2020-01-01 00:00:00"), ("datetime-upper", "2020-01-02 00:00:00"),
    ("sharding-seconds", "3600")]

private def logTables : List String :=
  ["t_log_0", "t_log_1", "t_log_2", "t_log_6"]

theorem hour_buckets_keep_order :
    ∃ interval, ofProperties? hourProperties = .ok interval ∧
      (∃ first ∈ DateTime.ofText? "2020-01-01 01:00:00",
        ∃ moment ∈ DateTime.ofText? "2020-01-01 05:30:00",
        first ≤ moment ∧ interval.bucketOf first ≤ interval.bucketOf moment) ∧
      interval.placement.selectEqual logTables "at" (.text "2020-01-01 05:30:00") =
        .ok (some "t_log_6") ∧
      ∃ places, interval.placement.selectWithin logTables "at"
          (.closed (.text "2020-01-01 01:00:00") (.text "2020-01-01 07:00:00")) = .ok places ∧
        "t_log_6" ∈ places := by
  have run : (ofProperties? hourProperties >>= fun interval => pure (decide
      (interval.lower.time.isLeap = false ∧
        interval.placement.selectEqual logTables "at" (.text "2020-01-01 05:30:00") =
          .ok (some "t_log_6")))) = .ok true := by
    decide +kernel
  have moments : ∃ first ∈ DateTime.ofText? "2020-01-01 01:00:00",
      ∃ moment ∈ DateTime.ofText? "2020-01-01 05:30:00",
      ∃ last ∈ DateTime.ofText? "2020-01-01 07:00:00", first ≤ moment ∧ moment ≤ last := by
    decide +kernel
  obtain ⟨interval, made, plain, placed⟩ := exists_of_decided run
  obtain ⟨first, firstRead, moment, read, last, lastRead, above, below⟩ := moments
  obtain ⟨_, ordered, covered⟩ := buckets_keep_order made
  have surrounds : interval.Surrounds
      (.closed (.text "2020-01-01 01:00:00") (.text "2020-01-01 07:00:00")) moment := by
    constructor
    · rintro _ ⟨⟩
      exact ⟨first, firstRead, above, DateTime.not_folds plain⟩
    · rintro _ ⟨⟩
      exact ⟨last, lastRead, below, DateTime.not_folds plain⟩
  obtain ⟨places, selected, found⟩ := covered logTables "at" _ (.text "2020-01-01 05:30:00") moment
    read surrounds
  exact ⟨interval, made, ⟨first, firstRead, moment, read, above,
    ordered first moment above (DateTime.not_folds plain)⟩, placed, places, selected,
    found _ placed⟩

private def minuteProperties : Properties :=
  .ofList [("datetime-lower", "2016-12-31 23:58:60"), ("datetime-upper", "2017-01-01 00:10:00"),
    ("sharding-seconds", "60")]

/-- A leap second between the ends of a range that misses its table. -/
theorem leap_seconds_change_buckets :
    ∃ interval, ofProperties? minuteProperties = .ok interval ∧
      (∃ first ∈ DateTime.ofText? "2016-12-31 23:59:59",
        ∃ moment ∈ DateTime.ofText? "2016-12-31 23:59:60",
        ∃ last ∈ DateTime.ofText? "2017-01-01 00:00:00", first ≤ moment ∧ moment ≤ last ∧
          interval.bucketOf last < interval.bucketOf moment) ∧
      interval.placement.selectEqual logTables "at" (.text "2016-12-31 23:59:60") =
        .ok (some "t_log_2") ∧
      interval.placement.selectWithin logTables "at"
          (.closed (.text "2016-12-31 23:59:59") (.text "2017-01-01 00:00:00")) =
        .ok ["t_log_1"] := by
  refine exists_of_decided ?_
  decide +kernel

end Interval

end Sharding
