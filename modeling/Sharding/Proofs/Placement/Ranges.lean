import Sharding.Proofs.Placement.Partitions

/-!
# Ranges of integers

Which integers lie in a range is said by its ends alone, whether they are included, excluded or
open. The partitions from the one at the lower end to the one at the upper end are those of the
integers in the range, so a placement by volume selects for a range just the tables that it selects
for single integers.
-/

set_option autoImplicit false

namespace Sharding

/-! ## Ends -/

/-- An integer is inside of the end as a lower one. -/
def Bound.BoundsBelow (bound : Bound) (n : Int64) : Prop :=
  match bound with
  | .included value => ∃ least, value.toInt? = some least ∧ least.toInt ≤ n.toInt
  | .excluded value => ∃ below, value.toInt? = some below ∧ below.toInt < n.toInt
  | .unbounded => True

/-- An integer is inside of the end as an upper one. -/
def Bound.BoundsAbove (bound : Bound) (n : Int64) : Prop :=
  match bound with
  | .included value => ∃ greatest, value.toInt? = some greatest ∧ n.toInt ≤ greatest.toInt
  | .excluded value => ∃ above, value.toInt? = some above ∧ n.toInt < above.toInt
  | .unbounded => True

namespace ValueRange

def Contains (range : ValueRange) (n : Int64) : Prop :=
  range.lower.BoundsBelow n ∧ range.upper.BoundsAbove n

variable {range : ValueRange} {bound : Bound} {lower upper : Option Int64} {n : Int64}

theorem boundsBelow_iff (found : lowerInt? bound = some lower) :
    bound.BoundsBelow n ↔ ∀ low ∈ lower, low.toInt ≤ n.toInt := by
  cases bound with
  | included value =>
      obtain ⟨least, read, rfl⟩ := Option.map_eq_some_iff.mp found
      simp [Bound.BoundsBelow, read]
  | excluded value =>
      simp only [lowerInt?, bind, Option.bind_eq_some_iff, pure, Option.some.injEq] at found
      obtain ⟨below, read, least, added, rfl⟩ := found
      have next : least.toInt = below.toInt + 1 := Word.toInt_of_ofInt? added
      have after : below.toInt < n.toInt ↔ least.toInt ≤ n.toInt := by omega
      simp [Bound.BoundsBelow, read, after]
  | unbounded =>
      cases found
      simp [Bound.BoundsBelow]

theorem boundsAbove_iff (found : upperInt? bound = some upper) :
    bound.BoundsAbove n ↔ ∀ high ∈ upper, n.toInt ≤ high.toInt := by
  cases bound with
  | included value =>
      obtain ⟨greatest, read, rfl⟩ := Option.map_eq_some_iff.mp found
      simp [Bound.BoundsAbove, read]
  | excluded value =>
      simp only [upperInt?, bind, Option.bind_eq_some_iff, pure, Option.some.injEq] at found
      obtain ⟨above, read, greatest, subtracted, rfl⟩ := found
      have next : greatest.toInt = above.toInt - 1 := Word.toInt_of_ofInt? subtracted
      have before : n.toInt < above.toInt ↔ n.toInt ≤ greatest.toInt := by omega
      simp [Bound.BoundsAbove, read, before]
  | unbounded =>
      cases found
      simp [Bound.BoundsAbove]

theorem contains_iff (bounds : range.integerBounds? = some (lower, upper)) :
    range.Contains n ↔
      (∀ low ∈ lower, low.toInt ≤ n.toInt) ∧ ∀ high ∈ upper, n.toInt ≤ high.toInt := by
  simp only [integerBounds?, bind, Option.bind_eq_some_iff, pure, Option.some.injEq,
    Prod.mk.injEq] at bounds
  obtain ⟨_, lowerFound, _, upperFound, rfl, rfl⟩ := bounds
  exact and_congr (boundsBelow_iff lowerFound) (boundsAbove_iff upperFound)

theorem spans_of_contains (bounds : range.integerBounds? = some (lower, upper))
    (inside : range.Contains n) : range.Spans n :=
  ⟨lower, upper, bounds, (contains_iff bounds).mp inside⟩

theorem all_contains (n : Int64) : all.Contains n :=
  ⟨trivial, trivial⟩

end ValueRange

/-! ## Tables of a range -/

namespace Suffix

variable {candidates : List String} {first last : Nat}

theorem findAll_eq (candidates : List String) (first last : Nat) :
    findAll candidates first last =
      (List.range' first (last + 1 - first)).filterMap (find? candidates) := by
  simp only [findAll, List.find?_map, Option.map_map, Function.comp_def, Option.map_id']
  rfl

/-- The names that are found carry ever greater numbers. -/
theorem pairwise_findAll (candidates : List String) (first last : Nat) :
    (findAll candidates first last).Pairwise fun left right =>
      ∃ i j, number? left = some i ∧ number? right = some j ∧ i < j := by
  rw [findAll_eq]
  refine List.Pairwise.filterMap _ ?_ (List.pairwise_lt_range' 1)
  intro i j less left leftFound right rightFound
  exact ⟨i, j, number?_of_find? leftFound, number?_of_find? rightFound, less⟩

end Suffix

namespace Volume

variable {v : Volume} {lower upper : Option Int64} {candidates : List String} {column : String}
  {range : ValueRange}

/-- Every partition between those of the ends holds an integer between the ends: the one at its
beginning, unless it is the partition of the lower end or the lowest one. -/
theorem exists_between {i : Nat} (least : Int64.minValue < v.lower)
    (upright : ∀ low ∈ lower, ∀ high ∈ upper, low ≤ high) (first : v.firstPartition lower ≤ i)
    (last : i ≤ v.lastPartition upper) :
    ∃ n, (∀ low ∈ lower, low.toInt ≤ n.toInt) ∧ (∀ high ∈ upper, n.toInt ≤ high.toInt) ∧
      v.partitionOf n = i := by
  by_cases atLower : ∃ low ∈ lower, v.partitionOf low = i
  · obtain ⟨low, ends, number⟩ := atLower
    refine ⟨low, fun other same => ?_, fun high upperEnd => ?_, number⟩
    · cases Option.mem_unique same ends
      exact Int.le_refl _
    · exact Int64.le_iff_toInt_le.mp (upright low ends high upperEnd)
  · have after : ∀ low ∈ lower, v.partitionOf low < i := by
      intro low ends
      cases ends
      exact Nat.lt_of_le_of_ne first fun number => atLower ⟨low, rfl, number⟩
    by_cases lowest : i = 0
    · subst lowest
      refine ⟨Int64.minValue, fun low ends => absurd (after low ends) (Nat.not_lt_zero _),
        fun high _ => ?_, by rw [partitionOf, if_pos least]⟩
      rw [Int64.toInt_minValue]
      exact high.le_toInt
    · have le := Nat.le_trans last (v.lastPartition_le upper)
      have pos : 1 ≤ i := Nat.pos_of_ne_zero lowest
      obtain ⟨n, start, number⟩ := exists_start (v := v) pos le
      refine ⟨n, fun low ends => ?_, fun high ends => ?_, number⟩
      · have notReached := mt (le_partitionOf_iff (n := low) pos le).mpr
          (Nat.not_le_of_lt (after low ends))
        omega
      · cases ends
        have reached := (le_partitionOf_iff (n := high) pos le).mp last
        omega

theorem selectWithin_inverted {low high : Int64} (column : String)
    (bounds : range.integerBounds? = some (some low, some high)) (inverted : high < low) :
    v.selectWithin candidates column range = .ok [] := by
  simp only [selectWithin, bounds, inverted, decide_true, if_true]

theorem selectEqual_of_toInt? {value : Value} {n : Int64} (column : String)
    (read : value.toInt? = some n) :
    v.selectEqual candidates column value = v.selectEqual candidates column (.int n) := by
  rw [selectEqual, read]
  rfl

theorem exists_toInt? {value : Value} {place : String} (column : String)
    (placed : v.selectEqual candidates column value = .ok (some place)) :
    ∃ n, value.toInt? = some n := by
  unfold selectEqual at placed
  split at placed
  next n read => exact ⟨n, read⟩
  next => cases placed

theorem selectWithin_exact (least : Int64.minValue < v.lower) (candidates : List String)
    (column : String) (bounds : range.integerBounds? = some (lower, upper)) :
    ∃ places, v.selectWithin candidates column range = .ok places ∧
      (∀ place, place ∈ places ↔
        ∃ n, range.Contains n ∧ v.selectEqual candidates column (.int n) = .ok (some place)) ∧
      places.Pairwise fun left right =>
        ∃ i j, Suffix.number? left = some i ∧ Suffix.number? right = some j ∧ i < j := by
  by_cases upright : ∀ low ∈ lower, ∀ high ∈ upper, low ≤ high
  · have selected : v.placement.select candidates column (.within range) =
        .ok (Suffix.findAll candidates (v.firstPartition lower) (v.lastPartition upper)) :=
      select_within bounds upright
    refine ⟨_, selected, fun place => ⟨fun member => ?_, fun ⟨n, inside, placed⟩ => ?_⟩,
      Suffix.pairwise_findAll _ _ _⟩
    · obtain ⟨number, first, last, found⟩ := Suffix.mem_findAll_iff.mp member
      obtain ⟨n, above, below, rfl⟩ := exists_between least upright first last
      exact ⟨n, (ValueRange.contains_iff bounds).mpr ⟨above, below⟩, congrArg Except.ok found⟩
    · exact mem_of_selectWithin column (ValueRange.spans_of_contains bounds inside) placed selected
  · simp only [not_forall] at upright
    obtain ⟨low, rfl, high, rfl, inverted⟩ := upright
    rw [Int64.le_iff_toInt_le] at inverted
    refine ⟨[], selectWithin_inverted column bounds ?_, fun place => ⟨fun member => ?_, ?_⟩, .nil⟩
    · rw [Int64.lt_iff_toInt_lt]
      omega
    · cases member
    · rintro ⟨n, inside, _⟩
      obtain ⟨above, below⟩ := (ValueRange.contains_iff bounds).mp inside
      have aboveLow := above low rfl
      have belowHigh := below high rfl
      omega

/-- For a range of integers just the tables are selected that are selected for single integers in
it, in the order of their numbers and none for two of them. The lower end must not be the least
word, below which there is no integer to be found in the lowest partition. -/
theorem ranges_select_exactly (least : Int64.minValue < v.lower) :
    (∀ candidates column range bounds, range.integerBounds? = some bounds →
      ∃ places, v.placement.selectWithin candidates column range = .ok places ∧
        (∀ place, place ∈ places ↔ ∃ n, range.Contains n ∧
          v.placement.selectEqual candidates column (.int n) = .ok (some place)) ∧
        (places.Pairwise fun left right =>
          ∃ i j, Suffix.number? left = some i ∧ Suffix.number? right = some j ∧ i < j) ∧
        ((∀ n, ¬ range.Contains n) → places = [])) ∧
    ∀ candidates column, ∃ places,
      v.placement.selectWithin candidates column .all = .ok places ∧
        ∀ place, place ∈ places ↔
          ∃ value, v.placement.selectEqual candidates column value = .ok (some place) := by
  constructor
  · intro candidates column range bounds found
    obtain ⟨places, selected, exact, ordered⟩ := selectWithin_exact least candidates column found
    refine ⟨places, selected, exact, ordered, fun empty => ?_⟩
    refine List.eq_nil_iff_forall_not_mem.mpr fun place member => ?_
    obtain ⟨n, inside, _⟩ := (exact place).mp member
    exact empty n inside
  · intro candidates column
    have bounds : ValueRange.all.integerBounds? = some (none, none) := rfl
    obtain ⟨places, selected, exact, _⟩ := selectWithin_exact least candidates column bounds
    refine ⟨places, selected, fun place => (exact place).trans ⟨?_, ?_⟩⟩
    · rintro ⟨n, _, placed⟩
      exact ⟨.int n, placed⟩
    · rintro ⟨value, placed⟩
      obtain ⟨n, read⟩ := exists_toInt? column placed
      exact ⟨n, ValueRange.all_contains n, (selectEqual_of_toInt? column read).symm.trans placed⟩

private def debts : Volume where
  lower := -9223372036854775807
  upper := 0
  volume := 9000000000000000000
  volume_pos := by decide
  fits := by decide
  volume_le := by decide

private def debtTables : List String :=
  ["t_2", "t", "t_0", "u_2", "t_3"]

/-- Below zero lie all partitions but the last one. The lowest one holds the least word alone. -/
theorem debt_ranges_select_exactly :
    Int64.minValue < debts.lower ∧
      debts.placement.selectWithin debtTables "id" ⟨.unbounded, .excluded (.text "0")⟩ =
        .ok ["t_0", "t_2"] ∧
      ∃ n, ValueRange.Contains ⟨.unbounded, .excluded (.text "0")⟩ n ∧
        debts.placement.selectEqual debtTables "id" (.int n) = .ok (some "t_0") := by
  have least : Int64.minValue < debts.lower := by decide
  have bounds : ValueRange.integerBounds? ⟨.unbounded, .excluded (.text "0")⟩ =
      some (none, some (-1)) := by
    decide +kernel
  have run : debts.placement.selectWithin debtTables "id" ⟨.unbounded, .excluded (.text "0")⟩ =
      .ok ["t_0", "t_2"] := by
    decide +kernel
  obtain ⟨places, selected, exact, _⟩ :=
    (ranges_select_exactly least).1 debtTables "id" _ _ bounds
  rw [run, Except.ok.injEq] at selected
  subst selected
  exact ⟨least, run, (exact "t_0").mp List.mem_cons_self⟩

end Volume

end Sharding
