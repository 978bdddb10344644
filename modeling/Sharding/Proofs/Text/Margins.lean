import Mathlib.Data.List.DropRight
import Mathlib.Data.List.TakeWhile
import Sharding.Text.Blank

/-!
# Blank margins

What the removal of the blank margins of a text leaves. Blanks at both ends make no difference to
it, and whatever stands between two other characters is kept.
-/

set_option autoImplicit false

namespace Sharding.Text

variable {chars before core after : List Char} {c first last : Char}

theorem isBlank_of_isDigit (digit : c.isDigit) : isBlank c = false := by
  obtain ⟨least, most⟩ := Char.isDigit_iff_toNat.mp digit
  have above : 48 ≤ c.val.toNat := least
  have below : c.val.toNat ≤ 57 := most
  simp only [isBlank, Bool.or_eq_false_iff, Bool.and_eq_false_iff, decide_eq_false_iff_not,
    beq_eq_false_iff_ne]
  omega

theorem dropWhile_isBlank_eq_self (dark : ∀ c ∈ chars.head?, isBlank c = false) :
    chars.dropWhile isBlank = chars := by
  cases chars with
  | nil => rfl
  | cons c chars => exact List.dropWhile_cons_of_neg (by simp [dark c rfl])

theorem trim_eq_self {content : String} (dark : ∀ c ∈ content.toList, isBlank c = false) :
    trim content = content := by
  have forwards : ∀ c ∈ content.toList.head?, isBlank c = false := fun c member =>
    dark c (List.mem_of_mem_head? member)
  have backwards : ∀ c ∈ content.toList.reverse.head?, isBlank c = false := fun c member =>
    dark c (List.mem_reverse.mp (List.mem_of_mem_head? member))
  rw [trim, trimChars, dropWhile_isBlank_eq_self forwards, dropWhile_isBlank_eq_self backwards,
    List.reverse_reverse, String.ofList_toList]

theorem count_dropWhile_isBlank (filled : isBlank c = false) :
    (chars.dropWhile isBlank).count c = chars.count c := by
  have none : (chars.takeWhile isBlank).count c = 0 := by
    refine List.count_eq_zero.mpr fun member => ?_
    exact Bool.false_ne_true (filled.symm.trans (List.mem_takeWhile_imp member))
  have parts := congrArg (List.count c)
    (List.takeWhile_append_dropWhile (p := isBlank) (l := chars))
  rw [List.count_append, none] at parts
  omega

theorem count_trimChars (filled : isBlank c = false) :
    (trimChars chars).count c = chars.count c := by
  rw [trimChars, List.count_reverse, count_dropWhile_isBlank filled, List.count_reverse,
    count_dropWhile_isBlank filled]

theorem trimChars_eq_nil_iff : trimChars chars = [] ↔ ∀ c ∈ chars, isBlank c := by
  simp only [trimChars, List.reverse_eq_nil_iff, List.dropWhile_eq_nil_iff, List.mem_reverse]
  refine ⟨fun behind c member => ?_, fun all c member => ?_⟩
  · rw [← List.takeWhile_append_dropWhile (p := isBlank) (l := chars), List.mem_append] at member
    exact member.elim List.mem_takeWhile_imp (behind c)
  · exact all c ((List.dropWhile_suffix isBlank).subset member)

theorem trim_eq_empty_iff {content : String} : trim content = "" ↔ isBlankText content := by
  rw [trim, String.ofList_eq_empty_iff, trimChars_eq_nil_iff, isBlankText, List.all_eq_true]

theorem dropTrailing_prefix : (chars.reverse.dropWhile isBlank).reverse <+: chars :=
  List.rdropWhile_prefix isBlank chars

theorem trimChars_infix : trimChars chars <:+: chars :=
  dropTrailing_prefix.isInfix.trans (List.dropWhile_suffix isBlank).isInfix

theorem trimChars_of_margins (leading : ∀ c ∈ before, isBlank c)
    (trailing : ∀ c ∈ after, isBlank c) :
    trimChars (before ++ chars ++ after) = trimChars chars := by
  unfold trimChars
  rw [List.append_assoc, List.dropWhile_append_of_pos leading, List.dropWhile_append]
  split
  next blank =>
    rw [List.isEmpty_iff] at blank
    rw [blank, List.dropWhile_eq_nil_iff.mpr trailing]
  next filled =>
    rw [List.reverse_append, List.dropWhile_append_of_pos (by simpa using trailing)]

theorem dropWhile_isBlank_append (starts : core.head? = some first)
    (filled : isBlank first = false) :
    (before ++ core).dropWhile isBlank = before.dropWhile isBlank ++ core := by
  have stays : core.dropWhile isBlank = core :=
    dropWhile_isBlank_eq_self (by simp [starts, filled])
  rw [List.dropWhile_append]
  split
  next blank => rw [List.isEmpty_iff.mp blank, stays, List.nil_append]
  next => rfl

/-- Between two characters that are not blank nothing is removed. -/
theorem trimChars_around (starts : core.head? = some first) (firstFilled : isBlank first = false)
    (ends : core.getLast? = some last) (lastFilled : isBlank last = false) :
    trimChars (before ++ core ++ after) =
      before.dropWhile isBlank ++ core ++ (after.reverse.dropWhile isBlank).reverse := by
  have fromFront : (core ++ after).head? = some first := by simp [starts]
  have fromBack : (core.reverse ++ (before.dropWhile isBlank).reverse).head? = some last := by
    simp [ends]
  rw [trimChars, List.append_assoc, dropWhile_isBlank_append fromFront firstFilled,
    List.reverse_append, List.reverse_append, List.append_assoc,
    dropWhile_isBlank_append fromBack lastFilled]
  simp

end Sharding.Text
