import Mathlib.Data.List.DropRight
import Sharding.Placement.Suffix
import Std.Data.String.ToNat

/-!
# Numbers at the end of names

Every name is a head and the run of ASCII digits behind it. The number of the name is that of its
run, however long, and a name without a run has none. A table is found by its number if that fits
in a machine word, and the first one that has it is the one found.

The run can be found in the UTF-8 form as well, since no byte of another character is that of a
digit.
-/

set_option autoImplicit false

namespace Sharding.Suffix

open scoped Word

variable {name head run : String} {number : Nat} {candidates : List String}

/-! ## Runs of digits -/

/-- A name is a head and the run of all digits at its end. -/
structure EndsWith (name head run : String) : Prop where
  name_eq : name = head ++ run
  digit : ∀ c ∈ run.toList, c.isDigit
  ends : ∀ c ∈ head.toList.getLast?, ¬ c.isDigit

instance (name head run : String) : Decidable (EndsWith name head run) :=
  decidable_of_iff (name = head ++ run ∧ run.toList.all Char.isDigit ∧
    head.toList.getLast?.all fun c => !c.isDigit) <| by
    rw [List.all_eq_true, Option.all_eq_true]
    simp only [Bool.not_eq_true', ← Bool.not_eq_true]
    exact ⟨fun ⟨parts, digit, ends⟩ => ⟨parts, digit, ends⟩,
      fun ⟨parts, digit, ends⟩ => ⟨parts, digit, ends⟩⟩

/-- The number that digits stand for, without a bound. -/
def value (run : String) : Nat :=
  Nat.ofDigitChars 10 run.toList 0

def HasNumber (name : String) (number : Nat) : Prop :=
  ∃ head run, EndsWith name head run ∧ run ≠ "" ∧ value run = number

theorem exists_endsWith (name : String) : ∃ head run, EndsWith name head run := by
  refine ⟨String.ofList (name.toList.rdropWhile Char.isDigit),
    String.ofList (name.toList.rtakeWhile Char.isDigit), ?_, ?_, ?_⟩
  · rw [← String.ofList_append, List.rdropWhile_append_rtakeWhile, String.ofList_toList]
  · intro c member
    rw [String.toList_ofList] at member
    exact List.mem_rtakeWhile_imp member
  · intro c last
    rw [String.toList_ofList] at last
    obtain ⟨filled, rfl⟩ := List.mem_getLast?_eq_getLast last
    exact List.rdropWhile_last_not _ _ filled

theorem takeWhile_append_of_head? {α : Type} {wanted : α → Bool} {front rest : List α}
    (all : ∀ item ∈ front, wanted item) (ends : ∀ item ∈ rest.head?, ¬ wanted item) :
    (front ++ rest).takeWhile wanted = front := by
  rw [List.takeWhile_append_of_pos all]
  cases rest with
  | nil => simp
  | cons item rest => simp [ends item rfl]

theorem EndsWith.digits_eq (parts : EndsWith name head run) : digits name.toList = run.toList := by
  rw [digits, parts.name_eq, String.toList_append, List.reverse_append,
    takeWhile_append_of_head?, List.reverse_reverse]
  · exact fun c member => parts.digit c (List.mem_reverse.mp member)
  · rw [List.head?_reverse]
    exact parts.ends

theorem EndsWith.hasNumber_iff (parts : EndsWith name head run) :
    HasNumber name number ↔ run ≠ "" ∧ value run = number := by
  refine ⟨?_, fun own => ⟨head, run, parts, own⟩⟩
  rintro ⟨_, other, otherParts, own⟩
  have same : other = run :=
    String.toList_injective (otherParts.digits_eq.symm.trans parts.digits_eq)
  rwa [← same]

theorem number?_eq_some_iff :
    number? name = some number ↔ HasNumber name number ∧ number ≤ greatest := by
  obtain ⟨head, run, parts⟩ := exists_endsWith name
  rw [parts.hasNumber_iff, number?, parts.digits_eq]
  by_cases none : run = ""
  · simp [none]
  · have filled : ¬ run.toList.isEmpty := by simpa using none
    change (if run.toList.isEmpty then Option.none
      else if value run ≤ greatest then some (value run) else Option.none) = some number ↔ _
    rw [if_neg filled, Option.ite_none_right_eq_some, Option.some.injEq]
    constructor
    · rintro ⟨fits, rfl⟩
      exact ⟨⟨none, rfl⟩, fits⟩
    · rintro ⟨⟨-, rfl⟩, fits⟩
      exact ⟨fits, rfl⟩

instance (name : String) (number : Nat) : Decidable (HasNumber name number) :=
  decidable_of_iff
    (digits name.toList ≠ [] ∧ Nat.ofDigitChars 10 (digits name.toList) 0 = number) <| by
    obtain ⟨head, run, parts⟩ := exists_endsWith name
    rw [parts.hasNumber_iff, parts.digits_eq]
    simp [value]

/-! ## Candidates -/

theorem number?_of_find? (found : find? candidates number = some name) :
    number? name = some number := by
  simpa using List.find?_some found

theorem find?_eq_some_iff_first (fits : number ≤ greatest) :
    find? candidates number = some name ↔ ∃ before after, candidates = before ++ name :: after ∧
      HasNumber name number ∧ ∀ other ∈ before, ¬ HasNumber other number := by
  have carries (other : String) : number? other = some number ↔ HasNumber other number :=
    number?_eq_some_iff.trans (and_iff_left fits)
  simp only [find?, List.find?_eq_some_iff_append, decide_eq_true_eq, Bool.not_eq_true',
    decide_eq_false_iff_not, carries]
  constructor
  · rintro ⟨own, before, after, same, others⟩
    exact ⟨before, after, same, own, others⟩
  · rintro ⟨before, after, same, own, others⟩
    exact ⟨own, before, after, same, others⟩

theorem find?_eq_none_iff (fits : number ≤ greatest) :
    find? candidates number = none ↔ ∀ name ∈ candidates, ¬ HasNumber name number := by
  simp only [find?, List.find?_eq_none, decide_eq_true_eq, number?_eq_some_iff, fits, and_true]

/-- Zeros before the digits of a number make no difference to it. -/
theorem hasNumber_padded (ends : ∀ c ∈ head.toList.getLast?, ¬ c.isDigit) (zeros number : Nat) :
    HasNumber (head ++ String.ofList (List.replicate zeros '0') ++ toString number) number := by
  have nothing : Nat.ofDigitChars 10 (List.replicate zeros '0') 0 = 0 := by
    rw [Nat.ofDigitChars_replicate_zero, Nat.mul_zero]
  refine ⟨head, String.ofList (List.replicate zeros '0') ++ toString number,
    ⟨String.append_assoc .., fun c member => ?_, ends⟩, ?_, ?_⟩
  · simp only [String.toList_append, String.toList_ofList, List.mem_append,
      List.mem_replicate] at member
    rcases member with ⟨-, rfl⟩ | digit
    · rfl
    · rw [Nat.toString_eq_ofList_toDigits, String.toList_ofList] at digit
      exact Nat.isDigit_of_mem_toDigits (by decide) (by decide) digit
  · intro empty
    have none := congrArg String.toList empty
    simp [Nat.toDigits_ne_nil] at none
  · rw [value, String.toList_append, String.toList_ofList, Nat.ofDigitChars_append, nothing,
      Nat.toString_eq_ofList_toDigits, String.toList_ofList, Nat.ofDigitChars_ten_toDigits]

/-! ## Bytes -/

/-- The bytes of the digits from `0` to `9`. -/
def isDigitByte (byte : UInt8) : Bool :=
  48 ≤ byte.toNat && byte.toNat ≤ 57

/-- The number of digits at the end of the UTF-8 form of a name, counted byte by byte. -/
def digitBytes (name : String) : Nat :=
  (name.toByteArray.data.toList.reverse.takeWhile isDigitByte).length

theorem toList_data_toByteArray (content : String) :
    content.toByteArray.data.toList = content.toList.flatMap String.utf8EncodeChar := by
  rw [← String.utf8Encode_toList, List.utf8Encode, List.toList_data_toByteArray]

/-- Characters beyond ASCII have no bytes of ASCII characters. -/
theorem le_of_mem_utf8EncodeChar {c : Char} {byte : UInt8} (beyond : 127 < c.toNat)
    (member : byte ∈ String.utf8EncodeChar c) : 128 ≤ byte.toNat := by
  change 127 < c.val.toNat at beyond
  simp only [String.utf8EncodeChar, Nat.not_le_of_lt beyond, if_false] at member
  split at member
  · simp only [List.mem_cons, List.not_mem_nil, or_false] at member
    rcases member with rfl | rfl <;> rw [UInt8.toNat_ofNat'] <;> omega
  · split at member
    · simp only [List.mem_cons, List.not_mem_nil, or_false] at member
      rcases member with rfl | rfl | rfl <;> rw [UInt8.toNat_ofNat'] <;> omega
    · simp only [List.mem_cons, List.not_mem_nil, or_false] at member
      rcases member with rfl | rfl | rfl | rfl <;> rw [UInt8.toNat_ofNat'] <;> omega

theorem toNat_of_mem_utf8EncodeChar {c : Char} {byte : UInt8} (ascii : c.toNat ≤ 127)
    (member : byte ∈ String.utf8EncodeChar c) : byte.toNat = c.toNat := by
  change c.val.toNat ≤ 127 at ascii
  simp only [String.utf8EncodeChar, ascii, if_true, List.mem_singleton] at member
  rw [member, UInt8.toNat_ofNat', Nat.mod_eq_of_lt (by omega)]
  rfl

theorem isDigitByte_of_mem {c : Char} {byte : UInt8} (member : byte ∈ String.utf8EncodeChar c) :
    isDigitByte byte ↔ c.isDigit := by
  have zero : '0'.toNat = 48 := rfl
  have nine : '9'.toNat = 57 := rfl
  rw [isDigitByte, Bool.and_eq_true, decide_eq_true_eq, decide_eq_true_eq, Char.isDigit_iff_toNat,
    zero, nine]
  by_cases ascii : c.toNat ≤ 127
  · rw [toNat_of_mem_utf8EncodeChar ascii member]
  · have beyond := le_of_mem_utf8EncodeChar (Nat.lt_of_not_le ascii) member
    omega

/-- The bytes of the digits at the end are the digits, so they begin between two characters. -/
theorem EndsWith.digitBytes_eq (parts : EndsWith name head run) :
    digitBytes name = run.utf8ByteSize := by
  have whole : name.toByteArray.data.toList.reverse =
      run.toByteArray.data.toList.reverse ++ head.toByteArray.data.toList.reverse := by
    rw [parts.name_eq, String.toByteArray_append, ByteArray.data_append, Array.toList_append,
      List.reverse_append]
  rw [digitBytes, whole, takeWhile_append_of_head?, List.length_reverse, Array.length_toList,
    ByteArray.size_data, String.size_toByteArray]
  · intro byte member
    rw [List.mem_reverse, toList_data_toByteArray] at member
    obtain ⟨c, inRun, member⟩ := List.mem_flatMap.mp member
    exact (isDigitByte_of_mem member).mpr (parts.digit c inRun)
  · intro byte last
    rw [List.head?_reverse, toList_data_toByteArray] at last
    rcases List.eq_nil_or_concat head.toList with empty | ⟨front, c, same⟩
    · rw [empty] at last
      cases last
    · have filled : String.utf8EncodeChar c ≠ [] := by
        rw [← List.length_pos_iff, String.length_utf8EncodeChar]
        exact Char.utf8Size_pos c
      rw [same, List.concat_eq_append, List.flatMap_append, List.flatMap_singleton,
        List.getLast?_append_of_ne_nil _ filled] at last
      rw [isDigitByte_of_mem (List.mem_of_mem_getLast? last)]
      exact parts.ends c (by simp [same])

/-- Tables are found by their numbers exactly. Whatever the candidates are called, the first of them
with the number is found, and nothing if none has it. A name whose digits are too many for a machine
word, or that has none, is never found. The digits of every name begin between two characters of
its UTF-8 form, where they can be counted byte by byte, and a number is that of every name that ends
with its decimal text, after any zeros. -/
theorem numbers_are_found (candidates : List String) (index : UInt64) :
    (∀ name, find? candidates index.toNat = some name ↔
      ∃ before after, candidates = before ++ name :: after ∧ HasNumber name index.toNat ∧
        ∀ other ∈ before, ¬ HasNumber other index.toNat) ∧
    (find? candidates index.toNat = none ↔ ∀ name ∈ candidates, ¬ HasNumber name index.toNat) ∧
    (∀ name head run, EndsWith name head run → run = "" ∨ 2 ^ (64 : Nat) ≤ value run →
      find? candidates index.toNat ≠ some name) ∧
    (∀ name, ∃ head run, EndsWith name head run ∧ run.utf8ByteSize = digitBytes name) ∧
    ∀ head zeros, (∀ c ∈ head.toList.getLast?, ¬ c.isDigit) →
      HasNumber (head ++ String.ofList (List.replicate zeros '0') ++ toString index.toNat)
        index.toNat := by
  have fits : index.toNat ≤ greatest := Nat.le_pred_of_lt index.toNat_lt
  refine ⟨fun name => find?_eq_some_iff_first fits, find?_eq_none_iff fits, ?_, ?_, ?_⟩
  · intro name head run parts unfit found
    obtain ⟨own, -⟩ := number?_eq_some_iff.mp (number?_of_find? found)
    obtain ⟨filled, same⟩ := parts.hasNumber_iff.mp own
    rcases unfit with none | large
    · exact filled none
    · have below := index.toNat_lt
      omega
  · intro name
    obtain ⟨head, run, parts⟩ := exists_endsWith name
    exact ⟨head, run, parts, parts.digitBytes_eq.symm⟩
  · intro head zeros ends
    exact hasNumber_padded ends zeros index.toNat

private def mixedNames : List String :=
  ["t_٧", "t", "t_18446744073709551623", "7é007", "t_7"]

/-- The third number is too large by as much as there are words, and the digit of the first name is
none of ASCII. -/
theorem mixed_names_are_found :
    find? mixedNames 7 = some "7é007" ∧
    EndsWith "t" "t" "" ∧ find? mixedNames 7 ≠ some "t" ∧
    EndsWith "t_18446744073709551623" "t_" "18446744073709551623" ∧
    find? mixedNames 7 ≠ some "t_18446744073709551623" := by
  have none : EndsWith "t" "t" "" := by decide +kernel
  have large : EndsWith "t_18446744073709551623" "t_" "18446744073709551623" := by decide +kernel
  obtain ⟨found, -, unfit, -⟩ := numbers_are_found mixedNames 7
  refine ⟨(found _).mpr ⟨["t_٧", "t", "t_18446744073709551623"], ["t_7"], rfl, by decide +kernel,
    by decide +kernel⟩, none, unfit _ _ _ none (.inl rfl), large,
    unfit _ _ _ large (.inr (by decide +kernel))⟩

end Sharding.Suffix
