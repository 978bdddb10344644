import Mathlib.Data.List.Perm.Subperm
import Sharding.Placement.Inline
import Sharding.Placement.Volume
import Sharding.Proofs.Outcome
import Sharding.Route.Selection

/-!
# Coverage of placements

A placement that is asked with a predicate selects the place of every value for which the predicate
holds. For ranges this rests on how a placement walks or compares the integers in between.
-/

set_option autoImplicit false

namespace Sharding

/-- The integer lies between the first and the last integer of a range. -/
def ValueRange.Spans (range : ValueRange) (n : Int64) : Prop :=
  ∃ lower upper, range.integerBounds? = some (lower, upper) ∧
    (∀ first ∈ lower, first.toInt ≤ n.toInt) ∧ ∀ last ∈ upper, n.toInt ≤ last.toInt

/-- A value is one that the predicate asks for. -/
def Predicate.Holds : Predicate → Value → Prop
  | .equal expected, value => value = expected
  | .within range, value => ∃ n, value = .int n ∧ range.Spans n
  | .among values, value => value ∈ values

namespace StandardPlacement

/-- The place of a value is a candidate, and one that every range around the value selects. -/
structure Covers (placement : StandardPlacement) : Prop where
  candidate {candidates : List String} {column : String} {value : Value} {place : String}
    (placed : placement.selectEqual candidates column value = .ok (some place)) :
    place ∈ candidates
  range {candidates : List String} {column : String} {n : Int64} {place : String}
    {range : ValueRange} {places : List String} (spans : range.Spans n)
    (placed : placement.selectEqual candidates column (.int n) = .ok (some place))
    (selected : placement.selectWithin candidates column range = .ok places) : place ∈ places

variable {placement : StandardPlacement} {candidates places : List String} {column place : String}
  {value : Value}

theorem mem_of_selectAmong {values : List Value} (member : value ∈ values)
    (placed : placement.selectEqual candidates column value = .ok (some place))
    (selected : placement.selectAmong candidates column values = .ok places) : place ∈ places := by
  simp only [selectAmong, bind_eq_ok, pure_eq_ok] at selected
  obtain ⟨found, walked, rfl⟩ := selected
  obtain ⟨own, ownMember, ownPlaced⟩ := exists_right_of_mem (mapM_eq_ok_iff.mp walked) member
  rw [placed] at ownPlaced
  cases ownPlaced
  exact List.mem_filterMap.mpr ⟨_, ownMember, rfl⟩

theorem Covers.mem_of_select {predicate : Predicate} (covers : placement.Covers)
    (holds : predicate.Holds value)
    (placed : placement.selectEqual candidates column value = .ok (some place))
    (selected : placement.select candidates column predicate = .ok places) : place ∈ places := by
  cases predicate with
  | equal expected =>
      cases holds
      exact mem_of_selectAmong List.mem_cons_self placed selected
  | within range =>
      obtain ⟨n, rfl, spans⟩ := holds
      exact covers.range spans placed selected
  | among values => exact mem_of_selectAmong holds placed selected

end StandardPlacement

/-! ## By template -/

namespace Inline

/-- Keys found so far, each of them once. -/
structure Found (keys found : List String) : Prop where
  distinct : found.Nodup
  known : found ⊆ keys

namespace Found

variable {keys found : List String}

theorem none (keys : List String) : Found keys [] :=
  ⟨.nil, List.nil_subset keys⟩

theorem add (sound : Found keys found) (key : String) {next : List String}
    (added : (if keys.contains key && !found.contains key then key :: found else found) = next) :
    Found keys next ∧ found ⊆ next ∧ (key ∈ keys → key ∈ next) := by
  split at added
  next fresh =>
    cases added
    simp only [List.contains_eq_mem, Bool.and_eq_true, decide_eq_true_eq, Bool.not_eq_true',
      decide_eq_false_iff_not] at fresh
    refine ⟨⟨List.nodup_cons.mpr ⟨fresh.2, sound.distinct⟩, ?_⟩, List.subset_cons_self key found,
      fun _ => List.mem_cons_self⟩
    exact List.cons_subset.mpr ⟨fresh.1, sound.known⟩
  next stale =>
    cases added
    exact ⟨sound, fun _ member => member, fun known => by simpa [known] using stale⟩

/-- Nothing is left to find once as many keys are found as there are. -/
theorem mem_of_length_eq {key : String} (sound : Found keys found)
    (full : found.length = keys.length) (known : key ∈ keys) : key ∈ found :=
  ((List.subperm_of_subset sound.distinct sound.known).perm_of_length_le
    (Nat.le_of_eq full.symm)).mem_iff.mpr known

end Found

variable {inline : Inline} {column : String}

theorem collect_covers {keys found all : List String} {count : Nat} {start : Int}
    (sound : Found keys found)
    (collected : inline.collect column keys count start found = .ok all) :
    found ⊆ all ∧ ∀ (n : Int) (target : String), start ≤ n → n < start + count →
      inline.target column (.int (Int64.ofInt n)) = .ok target → Name.fold target ∈ keys →
      Name.fold target ∈ all := by
  induction count generalizing start found with
  | zero =>
      cases collected
      exact ⟨fun _ member => member, fun n _ _ _ => by omega⟩
  | succ count ih =>
      simp only [collect, bind_eq_ok] at collected
      obtain ⟨first, reached, rest⟩ := collected
      generalize added : (if keys.contains (Name.fold first) && !found.contains (Name.fold first)
        then Name.fold first :: found else found) = next at rest
      obtain ⟨soundNext, grown, now⟩ := sound.add (Name.fold first) added
      split at rest
      next full =>
        cases rest
        exact ⟨grown, fun n target _ _ _ known => soundNext.mem_of_length_eq full known⟩
      next =>
        obtain ⟨kept, covered⟩ := ih soundNext rest
        refine ⟨fun _ member => kept (grown member), fun n target above below evaluated known => ?_⟩
        by_cases here : n = start
        · subst here
          rw [reached] at evaluated
          cases evaluated
          exact kept (now known)
        · exact covered n target (by omega) (by omega) evaluated known

theorem selectEqual_eq_some {candidates : List String} {value : Value} {place : String}
    (placed : inline.selectEqual candidates column value = .ok (some place)) :
    ∃ target, inline.target column value = .ok target ∧ place ∈ candidates ∧
      Name.Same place target := by
  simp only [selectEqual, bind_eq_ok, pure_eq_ok] at placed
  obtain ⟨target, evaluated, found⟩ := placed
  refine ⟨target, evaluated, List.mem_of_find?_eq_some found, ?_⟩
  simpa [Name.Same] using List.find?_some found

theorem mem_of_selectWithin {candidates places : List String} {n : Int64} {place : String}
    {range : ValueRange} (spans : range.Spans n)
    (placed : inline.selectEqual candidates column (.int n) = .ok (some place))
    (selected : inline.selectWithin candidates column range = .ok places) : place ∈ places := by
  obtain ⟨target, evaluated, member, same⟩ := selectEqual_eq_some placed
  obtain ⟨lower, upper, bounds, above, below⟩ := spans
  simp only [selectWithin, bounds] at selected
  cases lower with
  | none =>
      cases selected
      exact member
  | some lower =>
      cases upper with
      | none =>
          cases selected
          exact member
      | some upper =>
          have aboveLower := above lower rfl
          have belowUpper := below upper rfl
          have upright : ¬ upper < lower := by
            rw [Int64.lt_iff_toInt_lt]
            omega
          simp only [upright, if_false] at selected
          split at selected
          next =>
            cases selected
            exact member
          next =>
            simp only [bind_eq_ok, pure_eq_ok] at selected
            obtain ⟨all, collected, rfl⟩ := selected
            have covered := (collect_covers (Found.none _) collected).2 n.toInt target aboveLower
              (by omega)
            rw [Int64.ofInt_toInt] at covered
            have known : Name.fold target ∈ candidates.map Name.fold :=
              List.mem_map.mpr ⟨place, member, same⟩
            refine List.mem_filter.mpr ⟨member, List.contains_iff_mem.mpr ?_⟩
            rw [show Name.fold place = Name.fold target from same]
            exact covered evaluated known

theorem covers (inline : Inline) : inline.placement.Covers where
  candidate placed := (selectEqual_eq_some placed).choose_spec.2.1
  range := mem_of_selectWithin

end Inline

/-! ## By volume -/

namespace Suffix

theorem mem_findAll {candidates : List String} {number first last : Nat} {place : String}
    (found : find? candidates number = some place) (above : first ≤ number)
    (below : number ≤ last) : place ∈ findAll candidates first last := by
  refine List.mem_filterMap.mpr ⟨number, List.mem_range'_1.mpr (by omega), ?_⟩
  rw [List.find?_map, Option.map_map]
  exact Option.map_eq_some_iff.mpr ⟨place, found, rfl⟩

end Suffix

namespace Volume

variable {v : Volume}

theorem partitionOf_le (n : Int64) : v.partitionOf n ≤ v.partitions + 1 := by
  unfold partitionOf
  split
  next => omega
  next =>
    split
    next => omega
    next inside =>
      rw [Int64.le_iff_toInt_le] at inside
      have below : (n.toInt - v.lower.toInt) / v.volume.toInt ≤ v.span / v.volume.toInt :=
        Int.ediv_le_ediv v.volume_pos (by unfold span; omega)
      unfold partitions
      split <;> omega

theorem partitionOf_mono {left right : Int64} (le : left.toInt ≤ right.toInt) :
    v.partitionOf left ≤ v.partitionOf right := by
  by_cases beyond : v.upper ≤ right
  · have last : v.partitionOf right = v.partitions + 1 := by
      have notBelow : ¬ right < v.lower := by
        have positive := v.volume_pos
        have ordered := v.volume_le
        rw [Int64.le_iff_toInt_le] at beyond
        rw [Int64.lt_iff_toInt_lt]
        omega
      simp [partitionOf, notBelow, beyond]
    rw [last]
    exact partitionOf_le left
  · have leftInside : ¬ v.upper ≤ left := by
      rw [Int64.le_iff_toInt_le] at beyond ⊢
      omega
    unfold partitionOf
    simp only [beyond, leftInside, if_false, Int64.lt_iff_toInt_lt]
    have quotients : (left.toInt - v.lower.toInt) / v.volume.toInt ≤
        (right.toInt - v.lower.toInt) / v.volume.toInt :=
      Int.ediv_le_ediv v.volume_pos (by omega)
    split <;> split <;> omega

theorem mem_of_selectWithin (column : String) {candidates places : List String} {n : Int64}
    {place : String} {range : ValueRange} (spans : range.Spans n)
    (placed : v.selectEqual candidates column (.int n) = .ok (some place))
    (selected : v.selectWithin candidates column range = .ok places) : place ∈ places := by
  simp only [selectEqual, Value.toInt?, Except.ok.injEq] at placed
  obtain ⟨lower, upper, bounds, above, below⟩ := spans
  simp only [selectWithin, bounds] at selected
  have first : (lower.map v.partitionOf).getD 0 ≤ v.partitionOf n := by
    cases lower with
    | none => exact Nat.zero_le _
    | some lower => exact partitionOf_mono (above lower rfl)
  have last : v.partitionOf n ≤ (upper.map v.partitionOf).getD (v.partitions + 1) := by
    cases upper with
    | none => exact partitionOf_le n
    | some upper => exact partitionOf_mono (below upper rfl)
  cases lower with
  | none =>
      cases selected
      exact Suffix.mem_findAll placed first last
  | some lower =>
      cases upper with
      | none =>
          cases selected
          exact Suffix.mem_findAll placed first last
      | some upper =>
          have upright : ¬ upper < lower := by
            have aboveLower := above lower rfl
            have belowUpper := below upper rfl
            rw [Int64.lt_iff_toInt_lt]
            omega
          simp only [upright, decide_false, Bool.false_eq_true, if_false] at selected
          cases selected
          exact Suffix.mem_findAll placed first last

theorem covers (v : Volume) : v.placement.Covers where
  candidate {candidates column value place} placed := by
    change v.selectEqual candidates column value = .ok (some place) at placed
    unfold selectEqual at placed
    cases read : value.toInt? with
    | none => simp [read] at placed
    | some n =>
        simp only [read, Except.ok.injEq] at placed
        exact List.mem_of_find?_eq_some placed
  range {_ column _ _ _ _} := mem_of_selectWithin column

end Volume

end Sharding
