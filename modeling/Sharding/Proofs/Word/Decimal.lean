import Sharding.Proofs.Text.Margins
import Sharding.Word.Decimal

/-!
# Reading decimal text

A text is read as a word exactly if it is a sign or none and then digits, of a number that fits in
a word. The canonical text of a word is read as that word.
-/

set_option autoImplicit false

namespace Sharding

namespace Word

/-- The number with the sign. -/
def signed (negative : Bool) (number : Nat) : Int :=
  if negative then -number else number

/-- The ways to write the sign. -/
def signs (negative : Bool) : List (List Char) :=
  if negative then [['-']] else [[], ['+']]

variable {negative : Bool} {digits : List Char} {start : Nat} {result : Int}

theorem le_ofDigitChars : start ≤ Nat.ofDigitChars 10 digits start := by
  induction digits generalizing start with
  | nil => exact Nat.le_refl _
  | cons digit digits ih =>
      rw [Nat.ofDigitChars_cons]
      exact Nat.le_trans (by omega) ih

theorem fits_of_le {larger : Nat} (fits : Fits (signed negative larger)) (le : start ≤ larger) :
    Fits (signed negative start) := by
  unfold Fits signed at *
  cases negative <;> simp only [if_true, Bool.false_eq_true, if_false] at * <;> omega

theorem withDigit_signed (negative : Bool) (number : Nat) (digit : Char) :
    withDigit negative (signed negative number) digit =
      signed negative (10 * number + digitValue digit) := by
  cases negative <;> simp only [withDigit, signed, if_true, Bool.false_eq_true, if_false] <;> omega

/-- Digits are read as the number that they are if it fits; leaving the words on the way is
leaving them for good. -/
theorem readDigits_eq_ok_iff (fits : Fits (signed negative start)) :
    readDigits negative (signed negative start) digits = .ok result ↔
      (∀ digit ∈ digits, digit.isDigit) ∧
        result = signed negative (Nat.ofDigitChars 10 digits start) ∧ Fits result := by
  induction digits generalizing start with
  | nil =>
      simp only [readDigits, Except.ok.injEq, Nat.ofDigitChars_nil]
      exact ⟨fun same => ⟨by simp, same.symm, same ▸ fits⟩, fun read => read.2.1.symm⟩
  | cons digit digits ih =>
      rw [readDigits, Nat.ofDigitChars_cons, withDigit_signed]
      by_cases isDigit : digit.isDigit
      · by_cases next_fits : Fits (signed negative (10 * start + digitValue digit))
        · rw [if_neg (by simp [isDigit]), if_pos next_fits, ih next_fits]
          simp [isDigit, digitValue]
        · rw [if_neg (by simp [isDigit]), if_neg next_fits]
          refine ⟨fun run => (by cases run), fun read => absurd ?_ next_fits⟩
          exact fits_of_le (read.2.1 ▸ read.2.2) le_ofDigitChars
      · rw [if_pos (by simp [isDigit])]
        exact ⟨fun run => (by cases run),
          fun read => absurd (read.1 digit List.mem_cons_self) isDigit⟩

theorem readDigits_zero_eq_ok_iff : readDigits negative 0 digits = .ok result ↔
    (∀ digit ∈ digits, digit.isDigit) ∧
      result = signed negative (Nat.ofDigitChars 10 digits 0) ∧ Fits result := by
  have zero : signed negative 0 = 0 := by cases negative <;> rfl
  have fits : Fits (signed negative 0) := by rw [zero]; decide
  rw [← readDigits_eq_ok_iff fits, zero]

/-! ## Signs -/

theorem readInt_plus (some_digits : digits ≠ []) :
    readInt ('+' :: digits) = readDigits false 0 digits := by
  cases digits with
  | nil => exact absurd rfl some_digits
  | cons digit others => rfl

theorem readInt_minus (some_digits : digits ≠ []) :
    readInt ('-' :: digits) = readDigits true 0 digits := by
  cases digits with
  | nil => exact absurd rfl some_digits
  | cons digit others => rfl

theorem readInt_digits (some_digits : digits ≠ []) (all : ∀ digit ∈ digits, digit.isDigit) :
    readInt digits = readDigits false 0 digits := by
  cases digits with
  | nil => exact absurd rfl some_digits
  | cons digit others =>
      have isDigit := all digit List.mem_cons_self
      unfold readInt
      split <;> first | rfl | simp_all

/-- A sign or none, and one or more digits, of a number that fits. -/
theorem readInt_eq_ok_iff {chars : List Char} :
    readInt chars = .ok result ↔ ∃ negative, ∃ sign ∈ signs negative, ∃ digits, digits ≠ [] ∧
      (∀ digit ∈ digits, digit.isDigit) ∧ chars = sign ++ digits ∧
      result = signed negative (Nat.ofDigitChars 10 digits 0) ∧ Fits result := by
  constructor
  · intro read
    unfold readInt at read
    split at read
    · cases read
    · cases read
    · cases read
    next digits some_digits =>
      obtain ⟨all, exact, fits⟩ := readDigits_zero_eq_ok_iff.mp read
      exact ⟨false, ['+'], by simp [signs], digits, some_digits, all, rfl, exact, fits⟩
    next digits some_digits =>
      obtain ⟨all, exact, fits⟩ := readDigits_zero_eq_ok_iff.mp read
      exact ⟨true, ['-'], by simp [signs], digits, some_digits, all, rfl, exact, fits⟩
    next some_digits _ _ _ _ =>
      obtain ⟨all, exact, fits⟩ := readDigits_zero_eq_ok_iff.mp read
      exact ⟨false, [], by simp [signs], chars, some_digits, all, rfl, exact, fits⟩
  · rintro ⟨negative, sign, allowed, digits, some_digits, all, rfl, exact, fits⟩
    have read := readDigits_zero_eq_ok_iff.mpr ⟨all, exact, fits⟩
    cases negative with
    | true =>
        cases List.mem_singleton.mp allowed
        rwa [List.singleton_append, readInt_minus some_digits]
    | false =>
        rcases List.mem_cons.mp allowed with rfl | plus
        · rwa [List.nil_append, readInt_digits some_digits all]
        · cases List.mem_singleton.mp plus
          rwa [List.singleton_append, readInt_plus some_digits]

theorem parse?_eq_some_iff {content : String} {word : Int64} :
    parse? content = some word ↔ readInt content.toList = .ok word.toInt := by
  unfold parse? parse
  cases read : readInt content.toList with
  | error fault => simp [Except.map, Except.toOption]
  | ok number =>
      have fits := fits_of_readInt read
      simp only [Except.map, Except.toOption, Option.some.injEq, Except.ok.injEq]
      rw [← Int64.toInt_inj, Int64.toInt_ofInt_of_le fits.1 fits.2]

theorem toList_text (word : Int64) :
    (text word).toList =
      (if word.toInt < 0 then ['-'] else []) ++ Nat.toDigits 10 word.toInt.natAbs := by
  unfold text
  cases word.toInt with
  | ofNat number => exact Nat.toList_repr
  | negSucc number =>
      rw [if_pos (Int.negSucc_lt_zero number)]
      exact String.toList_append.trans (congrArg _ Nat.toList_repr)

/-- The canonical text of a word is read as that word. -/
theorem parse?_text (word : Int64) : parse? (text word) = some word := by
  have fits := fits_toInt word
  rw [parse?_eq_some_iff, readInt_eq_ok_iff, toList_text]
  refine ⟨decide (word.toInt < 0), if word.toInt < 0 then ['-'] else [], ?_, _,
    Nat.toDigits_ne_nil, ?_, rfl, ?_, fits⟩
  · by_cases negative : word.toInt < 0 <;> simp [signs, negative]
  · exact fun _ member => Nat.isDigit_of_mem_toDigits (by decide) (by decide) member
  · rw [Nat.ofDigitChars_ten_toDigits, signed]
    by_cases negative : word.toInt < 0
    · rw [if_pos (decide_eq_true negative)]
      omega
    · rw [if_neg (by simp [negative])]
      omega

end Word

/-! ## Margins -/

theorem Word.trim_text (word : Int64) : Text.trim (Word.text word) = Word.text word := by
  refine Text.trim_eq_self fun c member => ?_
  rw [toList_text, List.mem_append] at member
  rcases member with sign | digit
  · split at sign
    · cases List.mem_singleton.mp sign
      decide
    · cases sign
  · exact Text.isBlank_of_isDigit (Nat.isDigit_of_mem_toDigits (by decide) (by decide) digit)

end Sharding
