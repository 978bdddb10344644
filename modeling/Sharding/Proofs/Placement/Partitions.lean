import Mathlib.Data.Rat.Floor
import Sharding.Proofs.Placement.Numbering

/-!
# Partitions of the integers

A placement by volume cuts the integers into consecutive partitions. Each one begins where the one
before ends, so that an integer is in a partition of at least some number exactly if it is not
before the beginning of that partition. The number of an integer's partition, which a division
gives, is described by these beginnings alone.
-/

set_option autoImplicit false

namespace Sharding

open scoped Word

namespace Volume

variable {v : Volume}

/-- The integers of a partition, by its number. -/
inductive Holds (v : Volume) : Nat → Int → Prop where
  | below {n : Int} (before : n < v.lower.toInt) : Holds v 0 n
  | inside {i : Nat} {n : Int} (pos : 1 ≤ i) (le : i ≤ v.partitions)
      (since : v.lower.toInt + (i - 1) * v.volume.toInt ≤ n)
      (before : n < min (v.lower.toInt + i * v.volume.toInt) v.upper.toInt) : Holds v i n
  | above {n : Int} (since : v.upper.toInt ≤ n) : Holds v (v.partitions + 1) n

/-! ## Beginnings -/

/-- The first integer of a partition other than the lowest one. -/
def start (v : Volume) (i : Nat) : Int :=
  min (v.lower.toInt + (i - 1) * v.volume.toInt) v.upper.toInt

theorem span_pos (v : Volume) : 0 < v.span :=
  Int.lt_of_lt_of_le v.volume_pos v.volume_le

theorem upper_eq (v : Volume) : v.upper.toInt = v.lower.toInt + v.span := by
  unfold span
  omega

theorem partitions_cast (v : Volume) : (v.partitions : Int) =
    v.span / v.volume.toInt + if v.span % v.volume.toInt = 0 then 0 else 1 := by
  have quotient : 0 ≤ v.span / v.volume.toInt :=
    Int.ediv_nonneg (Int.le_of_lt v.span_pos) (Int.le_of_lt v.volume_pos)
  unfold partitions
  split <;> omega

/-- There are as many partitions between the ends as volumes begin there. -/
theorem lt_partitions_iff (i : Int) : i < v.partitions ↔ i * v.volume.toInt < v.span := by
  have whole : i ≤ v.span / v.volume.toInt ↔ i * v.volume.toInt ≤ v.span :=
    Int.le_ediv_iff_mul_le v.volume_pos
  have parts := Int.mul_ediv_add_emod v.span v.volume.toInt
  rw [v.partitions_cast]
  split
  next exact =>
    have last : i = v.span / v.volume.toInt ↔ i * v.volume.toInt = v.span := by
      constructor
      · rintro rfl
        rw [Int.mul_comm]
        omega
      · intro product
        rw [← product, Int.mul_ediv_cancel _ (Int.ne_of_gt v.volume_pos)]
    omega
  next cut =>
    have apart : i * v.volume.toInt ≠ v.span := by
      intro product
      rw [← product, Int.mul_emod_left] at cut
      exact cut rfl
    omega

theorem partitions_eq_ceil (v : Volume) :
    (v.partitions : ℤ) = ⌈(v.span : ℚ) / v.volume.toInt⌉ := by
  have pos : (0 : ℚ) < v.volume.toInt := by exact_mod_cast v.volume_pos
  refine eq_of_forall_lt_iff fun i => ?_
  rw [lt_partitions_iff, Int.lt_ceil, lt_div_iff₀ pos]
  exact_mod_cast Iff.rfl

@[simp] theorem start_one (v : Volume) : v.start 1 = v.lower.toInt := by
  have span := v.span_pos
  have upper := v.upper_eq
  simp only [start, Nat.cast_one, Int.sub_self, Int.zero_mul]
  omega

@[simp] theorem start_last (v : Volume) : v.start (v.partitions + 1) = v.upper.toInt := by
  have reached := (not_congr (lt_partitions_iff (v := v) v.partitions)).mp (Int.lt_irrefl _)
  have upper := v.upper_eq
  simp only [start, Nat.cast_add, Nat.cast_one, Int.add_sub_cancel]
  omega

theorem lower_le_start {i : Nat} (pos : 1 ≤ i) : v.lower.toInt ≤ v.start i := by
  have volumes : 0 ≤ ((i : Int) - 1) * v.volume.toInt :=
    Int.mul_nonneg (by omega) (Int.le_of_lt v.volume_pos)
  have span := v.span_pos
  have upper := v.upper_eq
  unfold start
  omega

theorem start_le_upper (i : Nat) : v.start i ≤ v.upper.toInt :=
  Int.min_le_right _ _

theorem start_eq {i : Nat} (le : i ≤ v.partitions) :
    v.start i = v.lower.toInt + (i - 1) * v.volume.toInt := by
  have inside := (lt_partitions_iff (v := v) (i - 1)).mp (by omega)
  have upper := v.upper_eq
  unfold start
  omega

theorem start_lt {i : Nat} (le : i ≤ v.partitions) : v.start i < v.start (i + 1) := by
  have inside := (lt_partitions_iff (v := v) (i - 1)).mp (by omega)
  have upper := v.upper_eq
  have volume := v.volume_pos
  have next : (i : Int) * v.volume.toInt = (i - 1) * v.volume.toInt + v.volume.toInt := by
    rw [Int.sub_mul, Int.one_mul]
    omega
  simp only [start, Nat.cast_add, Nat.cast_one, Int.add_sub_cancel]
  omega

/-- The beginnings are words, as they lie between the ends. -/
theorem exists_toInt_eq_start {i : Nat} (pos : 1 ≤ i) : ∃ n : Int64, n.toInt = v.start i := by
  have lower := lower_le_start (v := v) pos
  have upper := start_le_upper (v := v) i
  have least := v.lower.le_toInt
  have greatest := v.upper.toInt_lt
  exact ⟨Int64.ofInt (v.start i), Int64.toInt_ofInt_of_le (by omega) (by omega)⟩

/-! ## The partition of an integer -/

theorem le_partitionOf_iff {n : Int64} {i : Nat} (pos : 1 ≤ i) (le : i ≤ v.partitions + 1) :
    i ≤ v.partitionOf n ↔ v.start i ≤ n.toInt := by
  have lower := lower_le_start (v := v) pos
  have upper := start_le_upper (v := v) i
  unfold partitionOf
  split
  next below =>
    rw [Int64.lt_iff_toInt_lt] at below
    omega
  next =>
    split
    next above =>
      rw [Int64.le_iff_toInt_le] at above
      omega
    next below inside =>
      rw [Int64.lt_iff_toInt_lt] at below
      rw [Int64.le_iff_toInt_le] at inside
      have distance : 0 ≤ (n.toInt - v.lower.toInt) / v.volume.toInt :=
        Int.ediv_nonneg (by omega) (Int.le_of_lt v.volume_pos)
      have quotient : (i : Int) - 1 ≤ (n.toInt - v.lower.toInt) / v.volume.toInt ↔
          (i - 1) * v.volume.toInt ≤ n.toInt - v.lower.toInt :=
        Int.le_ediv_iff_mul_le v.volume_pos
      unfold start
      omega

theorem partitionOf_eq_iff {n : Int64} {i : Nat} (pos : 1 ≤ i) (le : i ≤ v.partitions) :
    v.partitionOf n = i ↔ v.start i ≤ n.toInt ∧ n.toInt < v.start (i + 1) := by
  have since := le_partitionOf_iff (v := v) (n := n) pos (by omega)
  have before := le_partitionOf_iff (v := v) (n := n) (i := i + 1) (by omega) (by omega)
  omega

theorem partitionOf_eq_iff_holds {n : Int64} {i : Nat} :
    v.partitionOf n = i ↔ v.Holds i n.toInt := by
  have notLowest := le_partitionOf_iff (v := v) (n := n) (i := 1) (by omega) (by omega)
  have highest := le_partitionOf_iff (v := v) (n := n) (i := v.partitions + 1) (by omega) (by omega)
  have most := partitionOf_le (v := v) n
  rw [start_one] at notLowest
  rw [start_last] at highest
  constructor
  · intro number
    by_cases lowest : i = 0
    · subst lowest
      exact .below (by omega)
    · by_cases last : i = v.partitions + 1
      · subst last
        exact .above (by omega)
      · have le : i ≤ v.partitions := by omega
        obtain ⟨since, before⟩ := (partitionOf_eq_iff (by omega) le).mp number
        rw [start_eq le] at since
        simp only [start, Nat.cast_add, Nat.cast_one, Int.add_sub_cancel] at before
        exact .inside (by omega) le since before
  · intro holds
    cases holds with
    | below before => omega
    | inside pos le since before =>
        refine (partitionOf_eq_iff pos le).mpr ⟨by rwa [start_eq le], ?_⟩
        simpa only [start, Nat.cast_add, Nat.cast_one, Int.add_sub_cancel] using before
    | above since => omega

/-- Every partition but the lowest holds the word at its beginning. -/
theorem exists_start {i : Nat} (pos : 1 ≤ i) (le : i ≤ v.partitions + 1) :
    ∃ n : Int64, n.toInt = v.start i ∧ v.partitionOf n = i := by
  obtain ⟨n, first⟩ := exists_toInt_eq_start (v := v) pos
  refine ⟨n, first, ?_⟩
  have reached := (le_partitionOf_iff (n := n) pos le).mpr (Int.le_of_eq first.symm)
  by_cases last : i = v.partitions + 1
  · have most := partitionOf_le (v := v) n
    omega
  · have next := start_lt (v := v) (i := i) (by omega)
    exact (partitionOf_eq_iff pos (by omega)).mpr (by omega)

/-! ## In words -/

/-- A number as a size, which is a word without a sign. -/
def size? (n : Int) : Option Nat :=
  if 0 ≤ n ∧ n ≤ Suffix.greatest then some n.toNat else none

/-- The number of partitions, computed in words. There is none if a step leaves the words. -/
def partitionsInWords? (lower upper volume : Int64) : Option Nat := do
  let span ← Word.sub? upper lower
  let whole ← Word.div? span volume
  let rest ← Word.rem? span volume
  let count ← Word.add? whole (if rest = 0 then 0 else 1)
  size? count.toInt

def partitionInWords? (v : Volume) (n : Int64) : Option Nat :=
  if n < v.lower then some 0
  else if v.upper ≤ n then size? (v.partitions + 1 : Nat)
  else do
    let distance ← Word.sub? n v.lower
    let quotient ← Word.div? distance v.volume
    let index ← size? quotient.toInt
    size? (index + 1 : Nat)

def tableCountInWords? (v : Volume) : Option Nat :=
  size? (v.partitions + 2 : Nat)

theorem size?_natCast {n : Nat} (le : n ≤ v.partitions + 2) : size? n = some n := by
  have partitions := v.partitions_le
  have fits : (n : Int) ≤ Suffix.greatest := by
    unfold Suffix.greatest
    omega
  rw [size?, if_pos ⟨Int.natCast_nonneg n, fits⟩, Int.toNat_natCast]

/-- Words between zero and the span have quotients and remainders by the volume. -/
theorem exists_div?_rem? {distance : Int64} (nonneg : 0 ≤ distance.toInt) :
    (∃ quotient, Word.div? distance v.volume = some quotient ∧
      quotient.toInt = distance.toInt / v.volume.toInt) ∧
    ∃ rest, Word.rem? distance v.volume = some rest ∧
      rest.toInt = distance.toInt % v.volume.toInt := by
  have less := distance.toInt_lt
  have volume := v.volume_pos
  have quotientNonneg := Int.ediv_nonneg nonneg (Int.le_of_lt volume)
  have quotientLe := Int.ediv_le_self v.volume.toInt nonneg
  have restNonneg := Int.emod_nonneg distance.toInt (Int.ne_of_gt volume)
  have restLt := Int.emod_lt_of_pos distance.toInt volume
  have volumeLt := v.volume.toInt_lt
  obtain ⟨quotient, quotientEq⟩ : ∃ quotient : Int64,
      quotient.toInt = distance.toInt / v.volume.toInt :=
    ⟨_, Int64.toInt_ofInt_of_le (by omega) (by omega)⟩
  obtain ⟨rest, restEq⟩ : ∃ rest : Int64, rest.toInt = distance.toInt % v.volume.toInt :=
    ⟨_, Int64.toInt_ofInt_of_le (by omega) (by omega)⟩
  have divided : Word.div? distance v.volume = some quotient := by
    rw [Word.div?, Word.ofInt?_eq_some_iff, Int.tdiv_eq_ediv_of_nonneg nonneg, quotientEq]
  refine ⟨⟨quotient, divided, quotientEq⟩, rest, ?_, restEq⟩
  rw [Word.rem?, divided, Option.bind_some, Word.ofInt?_eq_some_iff,
    Int.tmod_eq_emod_of_nonneg nonneg, restEq]

theorem partitions_le_span (v : Volume) : (v.partitions : Int) ≤ v.span := by
  refine Int.not_lt.mp fun greater => ?_
  have product := (lt_partitions_iff v.span).mp greater
  have volumes : v.span * 1 ≤ v.span * v.volume.toInt :=
    Int.mul_le_mul_of_nonneg_left v.volume_pos (Int.le_of_lt v.span_pos)
  omega

theorem partitionsInWords?_eq (v : Volume) :
    partitionsInWords? v.lower v.upper v.volume = some v.partitions := by
  obtain ⟨span, spanEq⟩ : ∃ span : Int64, span.toInt = v.span :=
    ⟨_, Int64.toInt_ofInt_of_le v.fits.1 v.fits.2⟩
  have spanFound : Word.sub? v.upper v.lower = some span := Word.ofInt?_eq_some_iff.mpr spanEq
  have nonneg : 0 ≤ span.toInt := by
    rw [spanEq]
    exact Int.le_of_lt v.span_pos
  obtain ⟨⟨whole, wholeFound, wholeEq⟩, rest, restFound, restEq⟩ :=
    exists_div?_rem? (v := v) nonneg
  rw [spanEq] at wholeEq restEq
  have counted : whole.toInt + (if rest = 0 then (0 : Int64) else 1).toInt = v.partitions := by
    have zero : rest = 0 ↔ v.span % v.volume.toInt = 0 := by
      rw [← restEq, ← Int64.toInt_inj, Int64.toInt_zero]
    rw [v.partitions_cast, wholeEq]
    by_cases exact : v.span % v.volume.toInt = 0
    · rw [if_pos (zero.mpr exact), if_pos exact, Int64.toInt_zero]
    · rw [if_neg (mt zero.mp exact), if_neg exact, Int64.toInt_one]
  have least := v.span_pos
  have most := v.partitions_le_span
  have fits := v.fits.2
  obtain ⟨count, countEq⟩ : ∃ count : Int64, count.toInt = v.partitions :=
    ⟨_, Int64.toInt_ofInt_of_le (by omega) (Int.lt_of_le_of_lt most fits)⟩
  have added : Word.add? whole (if rest = 0 then 0 else 1) = some count := by
    rw [Word.add?, Word.ofInt?_eq_some_iff, counted, countEq]
  simp only [partitionsInWords?, spanFound, wholeFound, restFound, added, countEq,
    Option.bind_eq_bind, Option.bind_some]
  exact size?_natCast (Nat.le_add_right _ 2)

theorem partitionInWords?_eq (v : Volume) (n : Int64) :
    v.partitionInWords? n = some (v.partitionOf n) := by
  have most := partitionOf_le (v := v) n
  unfold partitionInWords? partitionOf at *
  split
  next => rfl
  next notBelow =>
    split
    next => exact size?_natCast (v := v) (Nat.le_succ _)
    next notAbove =>
      rw [if_neg notBelow, if_neg notAbove] at most
      rw [Int64.lt_iff_toInt_lt] at notBelow
      rw [Int64.le_iff_toInt_le] at notAbove
      have nonneg : 0 ≤ n.toInt - v.lower.toInt := by omega
      obtain ⟨distance, distanceEq⟩ : ∃ distance : Int64,
          distance.toInt = n.toInt - v.lower.toInt := by
        have fits := v.fits.2
        exact ⟨_, Int64.toInt_ofInt_of_le (by omega) (by omega)⟩
      have subtracted : Word.sub? n v.lower = some distance :=
        Word.ofInt?_eq_some_iff.mpr distanceEq
      obtain ⟨⟨quotient, divided, quotientEq⟩, _⟩ := exists_div?_rem? (v := v) (distanceEq ▸ nonneg)
      obtain ⟨index, indexEq⟩ := Int.eq_ofNat_of_zero_le
        (Int.ediv_nonneg nonneg (Int.le_of_lt v.volume_pos))
      rw [indexEq, Int.toNat_natCast] at most ⊢
      rw [distanceEq, indexEq] at quotientEq
      simp only [subtracted, divided, quotientEq, Option.bind_eq_bind, Option.bind_some]
      rw [size?_natCast (v := v) (by omega), Option.bind_some]
      exact size?_natCast (v := v) (by omega)

theorem tableCountInWords?_eq (v : Volume) : v.tableCountInWords? = v.placement.tableCount :=
  size?_natCast (Nat.le_refl _)

/-! ## Setting up -/

variable {properties : Properties} {lower upper volume : Int64}

theorem ofEnds?_eq_ok_iff :
    ofEnds? lower upper volume = .ok v ↔
      v.lower = lower ∧ v.upper = upper ∧ v.volume = volume := by
  constructor
  · intro made
    unfold ofEnds? at made
    split at made
    · split at made
      · split at made
        · cases made
          exact ⟨rfl, rfl, rfl⟩
        · cases made
      · cases made
    · cases made
  · rintro ⟨rfl, rfl, rfl⟩
    rw [ofEnds?, dif_pos v.volume_pos, dif_pos v.fits, dif_pos v.volume_le]

theorem ofProperties?_eq_ok_iff (lowerRead : properties.requireInt type lowerKey = .ok lower)
    (upperRead : properties.requireInt type upperKey = .ok upper)
    (volumeRead : properties.requireInt type volumeKey = .ok volume) :
    ofProperties? properties = .ok v ↔
      v.lower = lower ∧ v.upper = upper ∧ v.volume = volume := by
  rw [← ofEnds?_eq_ok_iff]
  simp only [ofProperties?, lowerRead, upperRead, volumeRead, bind, Except.bind]
  cases ofEnds? lower upper volume <;> simp [pure, Except.pure]

/-- Ends and a volume that can be read set up a placement exactly if the volume is positive, the
distance of the ends is a word and no less than the volume. The partitions between the ends are as
many as the volume goes into the distance, rounded up. Every word is in exactly one partition, the
one it is given, the partitions between the ends are not empty and later ones hold greater
integers. None of the numbers computed on the way leaves the words. -/
theorem volumes_partition_words (lowerRead : properties.requireInt type lowerKey = .ok lower)
    (upperRead : properties.requireInt type upperKey = .ok upper)
    (volumeRead : properties.requireInt type volumeKey = .ok volume) :
    ((∃ v, ofProperties? properties = .ok v) ↔
      0 < volume.toInt ∧ Word.Fits (upper.toInt - lower.toInt) ∧
        volume.toInt ≤ upper.toInt - lower.toInt) ∧
    ∀ v, ofProperties? properties = .ok v →
      (v.lower = lower ∧ v.upper = upper ∧ v.volume = volume) ∧
      (v.partitions : ℤ) = ⌈((upper.toInt - lower.toInt : ℤ) : ℚ) / volume.toInt⌉ ∧
      (∀ n i, v.partitionOf n = i ↔ v.Holds i n.toInt) ∧
      (∀ n : Int64, ∃! i, v.Holds i n.toInt) ∧
      (∀ i, 1 ≤ i → i ≤ v.partitions → ∃ n, v.partitionOf n = i) ∧
      (∀ less greater : Int64, less ≤ greater → v.partitionOf less ≤ v.partitionOf greater) ∧
      partitionsInWords? lower upper volume = some v.partitions ∧
      (∀ n, v.partitionInWords? n = some (v.partitionOf n)) ∧
      v.tableCountInWords? = v.placement.tableCount := by
  constructor
  · constructor
    · rintro ⟨v, made⟩
      obtain ⟨rfl, rfl, rfl⟩ := (ofProperties?_eq_ok_iff lowerRead upperRead volumeRead).mp made
      exact ⟨v.volume_pos, v.fits, v.volume_le⟩
    · rintro ⟨volume_pos, fits, volume_le⟩
      exact ⟨⟨lower, upper, volume, volume_pos, fits, volume_le⟩,
        (ofProperties?_eq_ok_iff lowerRead upperRead volumeRead).mpr ⟨rfl, rfl, rfl⟩⟩
  · intro v made
    obtain ⟨rfl, rfl, rfl⟩ := (ofProperties?_eq_ok_iff lowerRead upperRead volumeRead).mp made
    refine ⟨⟨rfl, rfl, rfl⟩, v.partitions_eq_ceil, fun n i => partitionOf_eq_iff_holds,
      fun n => ?_, fun i pos le => ?_, fun less greater le => ?_,
      v.partitionsInWords?_eq, v.partitionInWords?_eq, v.tableCountInWords?_eq⟩
    · exact ⟨v.partitionOf n, partitionOf_eq_iff_holds.mp rfl,
        fun i holds => (partitionOf_eq_iff_holds.mpr holds).symm⟩
    · obtain ⟨n, _, number⟩ := exists_start (v := v) pos (by omega)
      exact ⟨n, number⟩
    · exact partitionOf_mono (Int64.le_iff_toInt_le.mp le)

private def wideProperties : Properties :=
  .ofList [("range-lower", "-4611686018427387904"), ("range-upper", "4611686018427387903"),
    ("sharding-volume", "4000000000000000000")]

theorem wide_volumes_partition_words :
    ∃ v, ofProperties? wideProperties = .ok v ∧ v.partitions = 3 ∧
      v.Holds 3 4611686018427387902 ∧
      v.partitionInWords? 4611686018427387902 = some 3 ∧
      v.partitionInWords? 4611686018427387903 = some 4 := by
  have reads : wideProperties.requireInt type lowerKey = .ok (-4611686018427387904) ∧
      wideProperties.requireInt type upperKey = .ok 4611686018427387903 ∧
      wideProperties.requireInt type volumeKey = .ok 4000000000000000000 := by
    decide +kernel
  have run : ∃ v, ofProperties? wideProperties = .ok v ∧ v.partitions = 3 ∧
      v.partitionOf 4611686018427387902 = 3 ∧ v.partitionOf 4611686018427387903 = 4 := by
    decide +kernel
  obtain ⟨lowerRead, upperRead, volumeRead⟩ := reads
  obtain ⟨v, made, count, last, above⟩ := run
  obtain ⟨_, _, number, _, _, _, _, inWords, _⟩ :=
    (volumes_partition_words lowerRead upperRead volumeRead).2 v made
  refine ⟨v, made, count, (number _ _).mp last, ?_, ?_⟩
  · rw [inWords, last]
  · rw [inWords, above]

end Volume

end Sharding
