import Sharding.Proofs.Placement.Enumeration

/-!
# The order of selected candidates

A placement by a template filters the candidates, so that what it selects for a range is in
candidate order. The placements that lay out numbered tables go through the numbers instead: they
select just as many candidates, but in the order of their numbers.
-/

set_option autoImplicit false

namespace Sharding

variable {candidates places : List String} {column : String} {range : ValueRange}

/-! ## Selections by number -/

namespace Suffix

variable {first last : Nat}

/-- All names have numbers, and those of later names are greater. -/
def Ascending (names : List String) : Prop :=
  names.Pairwise fun left right => ∃ i ∈ number? left, ∃ j ∈ number? right, i < j

instance (names : List String) : Decidable (Ascending names) :=
  inferInstanceAs (Decidable (List.Pairwise _ _))

theorem Ascending.nodup {names : List String} (ascending : Ascending names) : names.Nodup := by
  refine List.Pairwise.imp ?_ ascending
  rintro name _ ⟨i, own, j, again, less⟩ rfl
  cases Option.mem_unique own again
  exact Nat.lt_irrefl i less

/-- Only one order of names ascends. -/
theorem Ascending.eq_of_perm {names others : List String} (perm : names.Perm others)
    (ascending : Ascending names) (othersAscending : Ascending others) : names = others := by
  refine perm.eq_of_pairwise ?_ ascending othersAscending
  rintro name other - - ⟨i, nameOwn, j, otherOwn, less⟩ ⟨_, otherAgain, _, nameAgain, greater⟩
  cases Option.mem_unique nameOwn nameAgain
  cases Option.mem_unique otherOwn otherAgain
  exact absurd greater (Nat.lt_asymm less)

theorem ascending_findAll (candidates : List String) (first last : Nat) :
    Ascending (findAll candidates first last) :=
  (pairwise_findAll candidates first last).imp fun ⟨i, j, left, right, less⟩ =>
    ⟨i, left, j, right, less⟩

theorem findAll_subset : findAll candidates first last ⊆ candidates := by
  intro name member
  obtain ⟨number, -, -, found⟩ := mem_findAll_iff.mp member
  exact List.mem_of_find?_eq_some found

variable (distinct : candidates.Nodup)

include distinct

theorem findAll_perm_filter :
    (findAll candidates first last).Perm
      (candidates.filter (· ∈ findAll candidates first last)) := by
  refine (List.perm_ext_iff_of_nodup (ascending_findAll ..).nodup (distinct.filter _)).mpr ?_
  intro name
  rw [List.mem_filter, decide_eq_true_iff]
  exact ⟨fun member => ⟨findAll_subset member, member⟩, And.right⟩

theorem findAll_sublist_iff :
    (findAll candidates first last).Sublist candidates ↔
      Ascending (candidates.filter (· ∈ findAll candidates first last)) := by
  have perm : (findAll candidates first last).Perm
      (candidates.filter (· ∈ findAll candidates first last)) := findAll_perm_filter distinct
  have ascending := ascending_findAll candidates first last
  constructor
  · intro kept
    have within := kept.filter (· ∈ findAll candidates first last)
    rw [List.filter_eq_self.mpr (by simp)] at within
    rwa [← within.eq_of_length perm.length_eq]
  · intro filtered
    rw [ascending.eq_of_perm perm filtered]
    exact List.filter_sublist

end Suffix

/-! ## Placements -/

theorem Volume.exists_findAll {v : Volume}
    (selected : v.selectWithin candidates column range = .ok places) :
    ∃ first last, places = Suffix.findAll candidates first last := by
  cases bounds : range.integerBounds? with
  | none =>
      simp only [selectWithin, bounds] at selected
      cases selected
  | some ends =>
      obtain ⟨lower, upper⟩ := ends
      by_cases upright : ∀ low ∈ lower, ∀ high ∈ upper, low ≤ high
      · have placed : v.placement.select candidates column (.within range) =
            .ok (Suffix.findAll candidates (v.firstPartition lower) (v.lastPartition upper)) :=
          select_within bounds upright
        exact ⟨_, _, Except.ok.inj (selected.symm.trans placed)⟩
      · simp only [not_forall, Int64.not_le] at upright
        obtain ⟨low, rfl, high, rfl, inverted⟩ := upright
        rw [selectWithin_inverted column bounds inverted] at selected
        exact ⟨1, 0, (Except.ok.inj selected).symm⟩

theorem Interval.exists_findAll {interval : Interval}
    (selected : interval.selectWithin candidates column range = .ok places) :
    ∃ first last, places = Suffix.findAll candidates first last := by
  simp only [selectWithin, bind_eq_ok, pure_eq_ok] at selected
  obtain ⟨first, -, last, -, rfl⟩ := selected
  exact ⟨first, last, rfl⟩

theorem Numbering.exists_findAll {numbering : Numbering}
    (selected : numbering.placement.selectWithin candidates column range = .ok places) :
    ∃ first last, places = Suffix.findAll candidates first last := by
  cases numbering with
  | volume v =>
      change v.selectWithin candidates column range = .ok places at selected
      exact v.exists_findAll selected
  | interval interval =>
      change interval.selectWithin candidates column range = .ok places at selected
      exact interval.exists_findAll selected

theorem Inline.selectWithin_sublist {inline : Inline}
    (selected : inline.placement.selectWithin candidates column range = .ok places) :
    places.Sublist candidates := by
  change inline.selectWithin candidates column range = .ok places at selected
  unfold selectWithin at selected
  split at selected
  next => cases selected
  next low high bounds =>
    dsimp only at selected
    split at selected
    · cases selected
      exact List.nil_sublist _
    · split at selected
      · cases selected
        exact List.Sublist.refl _
      · simp only [bind_eq_ok, pure_eq_ok] at selected
        obtain ⟨found, -, rfl⟩ := selected
        exact List.filter_sublist
  next =>
    cases selected
    exact List.Sublist.refl _

/-- What is selected for a range is in candidate order by a placement by a template always, and by
one that lays out numbered tables exactly if the selected candidates stand in the order of their
numbers. Such a placement selects each candidate once at most, and in the order of the numbers. -/
theorem ranges_select_in_order (distinct : candidates.Nodup) (column : String)
    (range : ValueRange) :
    (∀ (inline : Inline) places,
      inline.placement.selectWithin candidates column range = .ok places →
        places.Sublist candidates) ∧
    ∀ (numbering : Numbering) places,
      numbering.placement.selectWithin candidates column range = .ok places →
        places.Perm (candidates.filter (· ∈ places)) ∧ Suffix.Ascending places ∧
          (places.Sublist candidates ↔ Suffix.Ascending (candidates.filter (· ∈ places))) := by
  refine ⟨fun inline places selected => inline.selectWithin_sublist selected, ?_⟩
  intro numbering places selected
  obtain ⟨first, last, rfl⟩ := numbering.exists_findAll selected
  exact ⟨Suffix.findAll_perm_filter distinct, Suffix.ascending_findAll candidates first last,
    Suffix.findAll_sublist_iff distinct⟩

private def weeks : Volume where
  lower := 0
  upper := 14
  volume := 7
  volume_pos := by decide
  fits := by decide
  volume_le := by decide

private def copies : Inline where
  template :=
    { source := "t_$\x7bid\x7d"
      parts := [.literal "t_", .placeholder (.single (.name "id"))] }

private def turnedTables : List String :=
  ["t_3", "t", "t_0", "t_1"]

/-- The table with the greatest number comes first, but is not selected. -/
theorem turned_tables_select_in_order :
    turnedTables.Nodup ∧
    copies.placement.selectWithin turnedTables "id" (.closed (.int 0) (.int 2)) =
      .ok ["t_0", "t_1"] ∧
    (Numbering.volume weeks).placement.selectWithin turnedTables "id"
        (.closed (.int (-1)) (.int 2)) = .ok ["t_0", "t_1"] ∧
    ["t_0", "t_1"].Sublist turnedTables := by
  have distinct : turnedTables.Nodup := by decide
  have copied : copies.placement.selectWithin turnedTables "id" (.closed (.int 0) (.int 2)) =
      .ok ["t_0", "t_1"] := by
    decide +kernel
  have numbered : (Numbering.volume weeks).placement.selectWithin turnedTables "id"
      (.closed (.int (-1)) (.int 2)) = .ok ["t_0", "t_1"] := by
    decide +kernel
  have kept := ((ranges_select_in_order distinct "id" _).2 (.volume weeks) _ numbered).2.2
  exact ⟨distinct, copied, numbered, kept.mpr (by decide +kernel)⟩

private def fallingTables : List String :=
  ["t_2", "t_1", "t_0"]

/-- Tables that stand against the order of their numbers are selected in that order. -/
theorem falling_tables_are_turned :
    fallingTables.Nodup ∧
    (∃ v, Volume.ofProperties? (.ofList [("range-lower", "0"), ("range-upper", "20"),
        ("sharding-volume", "10")]) = .ok v ∧
      v.placement.selectWithin fallingTables "id" .all = .ok ["t_0", "t_1", "t_2"]) ∧
    (∃ interval, Interval.ofProperties? (.ofList [("datetime-lower", "2020-01-01 00:00:00"),
        ("datetime-upper", "2020-01-03 00:00:00"), ("sharding-seconds", "86400")]) =
          .ok interval ∧
      interval.placement.selectWithin fallingTables "at" .all = .ok ["t_0", "t_1", "t_2"]) ∧
    ¬ ["t_0", "t_1", "t_2"].Sublist fallingTables := by
  decide +kernel

end Sharding
