import Mathlib.Data.List.Infix
import Sharding.Proofs.Text.Margins
import Sharding.Text.Around

/-!
# First marks

A text with a mark in it is what stands before the first mark, the mark and what stands behind it,
and this is how it is taken apart. Parts that are joined by a mark are found again if no part
holds the mark.
-/

set_option autoImplicit false

namespace Sharding.Text

variable {mark text before after : String} {marks chars front rest : List Char} {c : Char}

/-- The text is cut at the first of the marks in it. -/
structure CutAt (mark text before after : String) : Prop where
  text_eq : text = before ++ mark ++ after
  first : ∀ earlier later, text = earlier ++ mark ++ later → before.length ≤ earlier.length

def HasMark (mark text : String) : Prop :=
  ∃ before after, text = before ++ mark ++ after

/-! ## Characters -/

theorem charsAround?_eq_none_iff (filled : marks ≠ []) :
    charsAround? marks chars = none ↔ ¬ marks <:+: chars := by
  induction chars with
  | nil => simp [charsAround?, filled]
  | cons c chars ih =>
      rw [charsAround?, List.infix_cons_iff, not_or]
      split
      next starts => simp [List.isPrefixOf_iff_prefix.mp starts]
      next other =>
        rw [List.isPrefixOf_iff_prefix] at other
        rw [Option.map_eq_none_iff, ih]
        exact ⟨fun absent => ⟨other, absent⟩, And.right⟩

theorem charsAround?_eq_some (found : charsAround? marks chars = some (front, rest)) :
    chars = front ++ (marks ++ rest) ∧
      ∀ earlier later, chars = earlier ++ (marks ++ later) → front.length ≤ earlier.length := by
  induction chars generalizing front with
  | nil => cases found
  | cons c chars ih =>
      rw [charsAround?] at found
      split at found
      next starts =>
        cases found
        refine ⟨?_, fun _ _ _ => Nat.zero_le _⟩
        exact (List.prefix_iff_eq_append.mp (List.isPrefixOf_iff_prefix.mp starts)).symm
      next other =>
        obtain ⟨⟨others, _⟩, behind, same⟩ := Option.map_eq_some_iff.mp found
        cases same
        obtain ⟨parts, first⟩ := ih behind
        refine ⟨congrArg (c :: ·) parts, fun earlier later same => ?_⟩
        cases earlier with
        | nil => exact absurd (List.isPrefixOf_iff_prefix.mpr ⟨later, same.symm⟩) other
        | cons _ earlier =>
            exact Nat.succ_le_succ (first earlier later (List.cons.inj same).2)

/-! ## Texts -/

theorem hasMark_iff : HasMark mark text ↔ mark.toList <:+: text.toList := by
  constructor
  · rintro ⟨before, after, rfl⟩
    exact ⟨before.toList, after.toList, by simp⟩
  · rintro ⟨front, rest, same⟩
    exact ⟨String.ofList front, String.ofList rest, String.toList_injective (by simp [← same])⟩

theorem around?_eq_none_iff (filled : mark ≠ "") :
    around? mark text = none ↔ ¬ HasMark mark text := by
  rw [around?, Option.map_eq_none_iff, charsAround?_eq_none_iff (by simpa using filled),
    hasMark_iff]

theorem cutAt_of_around? (found : around? mark text = some (before, after)) :
    CutAt mark text before after := by
  obtain ⟨⟨front, rest⟩, divided, same⟩ := Option.map_eq_some_iff.mp found
  cases same
  obtain ⟨parts, first⟩ := charsAround?_eq_some divided
  refine ⟨String.toList_injective (by simp [parts]), ?_⟩
  rintro earlier later rfl
  rw [String.length_ofList, ← String.length_toList]
  exact first earlier.toList later.toList (by simp)

theorem CutAt.hasMark (cut : CutAt mark text before after) : HasMark mark text :=
  ⟨before, after, cut.text_eq⟩

/-- There is one first mark. -/
theorem CutAt.eq {earlier later : String} (cut : CutAt mark text before after)
    (other : CutAt mark text earlier later) : before = earlier ∧ after = later := by
  have length : before.length = earlier.length :=
    Nat.le_antisymm (cut.first _ _ other.text_eq) (other.first _ _ cut.text_eq)
  have same := congrArg String.toList (cut.text_eq.symm.trans other.text_eq)
  simp only [String.toList_append, List.append_assoc] at same
  obtain ⟨front, behind⟩ := List.append_inj same (by simpa only [String.length_toList] using length)
  exact ⟨String.toList_injective front, String.toList_injective (List.append_cancel_left behind)⟩

theorem around?_eq_some_iff (filled : mark ≠ "") :
    around? mark text = some (before, after) ↔ CutAt mark text before after := by
  refine ⟨cutAt_of_around?, fun cut => ?_⟩
  cases found : around? mark text with
  | none => exact absurd cut.hasMark ((around?_eq_none_iff filled).mp found)
  | some parts =>
      obtain ⟨rfl, rfl⟩ := cut.eq (cutAt_of_around? found)
      rfl

theorem HasMark.exists_cutAt (marked : HasMark mark text) (filled : mark ≠ "") :
    ∃ before after, CutAt mark text before after := by
  cases found : around? mark text with
  | none => exact absurd marked ((around?_eq_none_iff filled).mp found)
  | some parts => exact ⟨parts.1, parts.2, cutAt_of_around? found⟩

theorem HasMark.ne_empty (marked : HasMark mark text) (filled : mark ≠ "") : text ≠ "" := by
  obtain ⟨before, after, rfl⟩ := marked
  simp [String.append_eq_empty_iff, filled]

/-! ## Parts -/

theorem not_mem_of_mem_splitOn {part : List Char} (member : part ∈ chars.splitOn c) :
    c ∉ part := by
  induction chars generalizing part with
  | nil =>
      rw [List.splitOn_nil, List.mem_singleton] at member
      simp [member]
  | cons d chars ih =>
      rw [List.splitOn_cons_eq_if_modifyHead] at member
      obtain ⟨first, others, parts⟩ := List.exists_cons_of_ne_nil (List.splitOn_ne_nil c chars)
      rw [parts] at member ih
      split at member
      next =>
        rcases List.mem_cons.mp member with rfl | member
        · exact List.not_mem_nil
        · exact ih member
      next different =>
        rw [List.modifyHead_cons] at member
        rcases List.mem_cons.mp member with rfl | member
        · rw [List.mem_cons, not_or]
          exact ⟨fun same => different (beq_iff_eq.mpr same.symm), ih List.mem_cons_self⟩
        · exact ih (List.mem_cons_of_mem _ member)

/-- The text has the parts in it, one or more, with a mark between every two and no other marks. -/
structure Joins (c : Char) (parts : List String) (text : String) : Prop where
  filled : parts ≠ []
  apart : ∀ part ∈ parts, c ∉ part.toList
  text_eq : (String.singleton c).intercalate parts = text

theorem splitOn_eq_iff {parts : List String} :
    (text.toList.splitOn c).map String.ofList = parts ↔ Joins c parts text := by
  constructor
  · rintro rfl
    refine ⟨by simp, ?_, String.toList_injective ?_⟩
    · intro part member
      obtain ⟨chars, found, rfl⟩ := List.mem_map.mp member
      rw [String.toList_ofList]
      exact not_mem_of_mem_splitOn found
    · rw [String.toList_intercalate, List.map_map]
      simp [Function.comp_def]
  · rintro ⟨filled, apart, rfl⟩
    rw [String.toList_intercalate, String.toList_singleton, List.splitOn_intercalate c (by simpa)
      (by simpa), List.map_map]
    simp [Function.comp_def]

/-! ## Margins -/

/-- A mark without blanks is not lost with the margins. -/
theorem hasMark_trim (filled : mark ≠ "") (dark : mark.toList.all (!isBlank ·)) :
    HasMark mark (trim text) ↔ HasMark mark text := by
  simp only [List.all_eq_true, Bool.not_eq_true'] at dark
  rw [hasMark_iff, hasMark_iff, trim, String.toList_ofList]
  refine ⟨fun inside => inside.trans trimChars_infix, ?_⟩
  rintro ⟨front, rest, same⟩
  have chars : mark.toList ≠ [] := by simpa using filled
  obtain ⟨first, starts⟩ : ∃ first, mark.toList.head? = some first :=
    ⟨_, List.head?_eq_some_head chars⟩
  obtain ⟨last, ends⟩ : ∃ last, mark.toList.getLast? = some last :=
    ⟨_, List.getLast?_eq_some_getLast chars⟩
  rw [← same, trimChars_around starts (dark _ (List.mem_of_mem_head? starts)) ends
    (dark _ (List.mem_of_mem_getLast? ends))]
  exact ⟨_, _, rfl⟩

end Sharding.Text
