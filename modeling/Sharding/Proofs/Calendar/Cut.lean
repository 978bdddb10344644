import Sharding.Proofs.Calendar.Fields
import Sharding.Proofs.Calendar.Steady

/-!
# Cut datetimes

A text is cut to the size of a padded form before it is read as a datetime. The cut takes off what
follows a padded form. But a form with blanks or signs may be longer, and then the cut goes through
the seconds or takes them off, and a form that is not padded is shorter, so that something of what
follows it is left.
-/

set_option autoImplicit false

namespace Sharding.Calendar

open Text (isBlank)

variable {chars front rest blanks digits tail : List Char} {c : Char} {moment : DateTime}

/-! ## Seconds -/

/-- The digits of a second. -/
structure IsSecond (digits : List Char) : Prop where
  filled : digits ≠ []
  digit : ∀ c ∈ digits, c.isDigit
  short : digits.length ≤ 2

/-- Behind the front every second leads to a datetime of one minute, and nothing does without a
second or with a point behind it. -/
structure LeadsTo (front : List Char) (moments : Nat → Option DateTime) : Prop where
  whole : ∀ digits, IsSecond digits →
    DateTime.readPlain (front ++ digits) = moments (Nat.ofDigitChars 10 digits 0)
  pointed : ∀ digits tail, IsSecond digits →
    DateTime.readPlain (front ++ digits ++ '.' :: tail) = none
  short : ∀ chars, chars <+: front → DateTime.readPlain chars = none
  ends : ∀ c ∈ front.getLast?, ¬ c.isDigit
  clockSecond : ∀ second moment, moments second = some moment → moment.time.clockSecond = second
  earlier : ∀ second moment, moments second = some moment → ∀ other, other ≤ second →
    ∃ otherMoment, moments other = some otherMoment

theorem readField_of_isSecond (blank : ∀ c ∈ blanks, isBlank c) (second : IsSecond digits)
    (ends : ∀ c ∈ tail.head?, ¬ c.isDigit) :
    readField (blanks ++ (digits ++ tail)) = some (Nat.ofDigitChars 10 digits 0, tail) := by
  have dark : ∀ c ∈ (digits ++ tail).head?, isBlank c = false := by
    rw [List.head?_append_of_ne_nil _ second.filled]
    exact fun c member => Text.isBlank_of_isDigit (second.digit c (List.mem_of_mem_head? member))
  rw [readField, skipBlanks_append blank, skipBlanks_eq_self dark]
  exact readDigits_eq_some_iff.mpr
    ⟨digits, second.filled, second.digit, second.short, fun _ => ends, rfl, rfl⟩

theorem readField_of_blanks (blank : ∀ c ∈ blanks, isBlank c) : readField blanks = none := by
  rw [readField, skipBlanks, List.dropWhile_eq_nil_iff.mpr blank]
  rfl

theorem exists_ofFields? {year : Int} {month day hour minute second other : Nat}
    (found : DateTime.ofFields? year month day hour minute second 0 = some moment)
    (earlier : other ≤ second) :
    ∃ moment, DateTime.ofFields? year month day hour minute other 0 = some moment := by
  obtain ⟨date, dated, timed⟩ := Option.bind_eq_some_iff.mp found
  obtain ⟨time, timeFound, -⟩ := Option.bind_eq_some_iff.mp timed
  obtain ⟨hours, minutes, seconds, nanos⟩ := TimeOfDay.exists_ofFields?_iff.mp ⟨time, timeFound⟩
  obtain ⟨otherTime, otherFound⟩ := TimeOfDay.exists_ofFields?_iff.mpr
    ⟨hours, minutes, earlier.trans seconds, nanos⟩
  exact ⟨_, Option.bind_eq_some_iff.mpr ⟨date, dated,
    Option.bind_eq_some_iff.mpr ⟨otherTime, otherFound, rfl⟩⟩⟩

/-! ### The minute -/

section Minute

variable {year : Int} {month day hour minute : Nat}

/-- Everything up to the colon before the seconds is read, whatever is behind it. -/
def IsMinute (front : List Char) (fields : Int × Nat × Nat × Nat × Nat) : Prop :=
  ∀ text, readMinute (front ++ ':' :: text) = some (fields, ':' :: text)

theorem exists_isMinute (read : DateTime.readPlain chars = some moment) :
    ∃ front after fields second, IsMinute front fields ∧ chars = front ++ ':' :: after ∧
      readField after = some (second, []) := by
  rw [readPlain_eq] at read
  obtain ⟨⟨fields, rest⟩, minuteRead, afterMinute⟩ := Option.bind_eq_some_iff.mp read
  obtain ⟨after, colon, afterColon⟩ := Option.bind_eq_some_iff.mp afterMinute
  obtain ⟨⟨second, left⟩, secondRead, final⟩ := Option.bind_eq_some_iff.mp afterColon
  cases expect_eq_some_iff.mp colon
  obtain ⟨front, -, rfl, stays⟩ := steady_readMinute _ _ _ minuteRead
  refine ⟨front, after, fields, second, fun text => stays (':' :: text) (by simp), rfl, ?_⟩
  dsimp only at final
  split at final
  next nothing => rw [secondRead, List.isEmpty_iff.mp nothing]
  next => cases final

theorem IsMinute.readPlain (isMinute : IsMinute front (year, month, day, hour, minute))
    (text : List Char) : DateTime.readPlain (front ++ ':' :: text) = (do
      let (second, chars) ← readField text
      if chars.isEmpty then DateTime.ofFields? year month day hour minute second 0 else none) := by
  rw [readPlain_eq, isMinute text]
  rfl

/-- No minute with its colon is the front of another one. -/
theorem IsMinute.not_front {fields others : Int × Nat × Nat × Nat × Nat}
    (isMinute : IsMinute front fields) {other : List Char} (isOther : IsMinute other others) :
    ¬ other ++ [':'] <+: front := by
  rintro ⟨more, rfl⟩
  have whole := isMinute []
  rw [List.append_assoc, List.append_assoc, List.singleton_append, isOther] at whole
  simpa using congrArg (fun found => found.map fun result => result.2.length) whole

theorem IsMinute.readPlain_of_front {fields : Int × Nat × Nat × Nat × Nat}
    (isMinute : IsMinute front fields) (within : chars <+: front) :
    DateTime.readPlain chars = none := by
  cases read : DateTime.readPlain chars with
  | none => rfl
  | some moment =>
      obtain ⟨other, after, others, second, isOther, rfl, -⟩ := exists_isMinute read
      have colon : other ++ [':'] <+: other ++ ':' :: after := ⟨after, by simp⟩
      exact absurd (colon.trans within) (isMinute.not_front isOther)

theorem IsMinute.leadsTo (isMinute : IsMinute front (year, month, day, hour, minute))
    (blank : ∀ c ∈ blanks, isBlank c) : LeadsTo (front ++ ':' :: blanks) fun second =>
      DateTime.ofFields? year month day hour minute second 0 where
  whole digits second := by
    have nothing : ∀ c ∈ ([] : List Char).head?, ¬ c.isDigit := by simp
    have found := readField_of_isSecond blank second nothing
    rw [List.append_nil] at found
    rw [List.append_assoc, List.cons_append, isMinute.readPlain, found]
    rfl
  pointed digits tail second := by
    have point : ∀ c ∈ ('.' :: tail).head?, ¬ c.isDigit := by simp
    rw [List.append_assoc, List.append_assoc, List.cons_append, isMinute.readPlain,
      readField_of_isSecond blank second point]
    rfl
  short chars within := by
    rcases List.prefix_or_prefix_of_prefix within (List.prefix_append front _) with
      inside | ⟨more, rfl⟩
    · exact isMinute.readPlain_of_front inside
    · rw [List.prefix_append_right_inj, List.prefix_cons_iff] at within
      rcases within with rfl | ⟨others, rfl, within⟩
      · rw [List.append_nil]
        exact isMinute.readPlain_of_front List.prefix_rfl
      · rw [isMinute.readPlain, readField_of_blanks fun c member => blank c (within.subset member)]
        rfl
  ends c last digit := by
    rw [List.getLast?_append_of_ne_nil _ (List.cons_ne_nil _ _)] at last
    rcases List.mem_cons.mp (List.mem_of_mem_getLast? last) with rfl | member
    · exact absurd digit (by decide)
    · exact Bool.false_ne_true ((Text.isBlank_of_isDigit digit).symm.trans (blank c member))
  clockSecond _ _ found := (DateTime.ofFields?_eq_some_iff.mp found).2.2.2.1
  earlier _ _ found _ := exists_ofFields? found

end Minute

theorem exists_leadsTo (read : DateTime.readPlain chars = some moment) :
    ∃ front digits moments, LeadsTo front moments ∧ IsSecond digits ∧ chars = front ++ digits := by
  obtain ⟨front, after, ⟨_, _, _, _, _⟩, second, isMinute, rfl, secondRead⟩ := exists_isMinute read
  obtain ⟨digits, filled, digit, short, -, same, -⟩ := readDigits_eq_some_iff.mp secondRead
  rw [List.append_nil] at same
  have blank : ∀ c ∈ after.takeWhile isBlank, isBlank c := fun c => List.mem_takeWhile_imp
  refine ⟨_, digits, _, isMinute.leadsTo blank, ⟨filled, digit, short⟩, ?_⟩
  rw [List.append_assoc, List.cons_append, ← same]
  exact congrArg (front ++ ':' :: ·) List.takeWhile_append_dropWhile.symm

/-! ## Sizes -/

/-- The size of the UTF-8 form. -/
def byteSize : List Char → Nat
  | [] => 0
  | c :: rest => c.utf8Size + byteSize rest

theorem byteSize_append : byteSize (front ++ rest) = byteSize front + byteSize rest := by
  induction front with
  | nil => simp [byteSize]
  | cons c front ih => simp [byteSize, ih, Nat.add_assoc]

theorem byteSize_eq_zero_iff : byteSize chars = 0 ↔ chars = [] := by
  cases chars with
  | nil => simp [byteSize]
  | cons c chars => simp [byteSize, (Char.utf8Size_pos c).ne']

theorem byteSize_digit (digit : c.isDigit) : byteSize [c] = 1 := by
  have most : c.val.toNat ≤ 57 := (Char.isDigit_iff_toNat.mp digit).2
  have ascii : c.val ≤ 127 := UInt32.le_iff_toNat_le.mpr (most.trans (by decide))
  rw [byteSize, Char.utf8Size_eq_one_iff.mpr ascii]
  rfl

theorem byteSize_append_digit (digit : c.isDigit) :
    byteSize (front ++ [c]) = byteSize front + 1 := by
  rw [byteSize_append, byteSize_digit digit]

theorem takeBytes?_eq_some_iff {size : Nat} :
    takeBytes? size chars = some front ↔ front <+: chars ∧ byteSize front = size := by
  fun_induction takeBytes? size chars generalizing front with
  | case1 chars =>
      rw [byteSize_eq_zero_iff, Option.some.injEq]
      exact ⟨fun same => ⟨same ▸ List.nil_prefix, same.symm⟩, fun short => short.2.symm⟩
  | case2 size =>
      simp only [reduceCtorEq, List.prefix_nil, false_iff, not_and]
      rintro rfl
      simp [byteSize]
  | case3 size c rest fits ih =>
      simp only [Option.map_eq_some_iff, ih, List.prefix_cons_iff]
      constructor
      · rintro ⟨others, ⟨within, sized⟩, rfl⟩
        exact ⟨.inr ⟨others, rfl, within⟩, by rw [byteSize]; omega⟩
      · rintro ⟨rfl | ⟨others, rfl, within⟩, sized⟩
        · simp [byteSize] at sized
        · rw [byteSize] at sized
          exact ⟨others, ⟨within, by omega⟩, rfl⟩
  | case4 size c rest large =>
      simp only [reduceCtorEq, List.prefix_cons_iff, false_iff, not_and]
      rintro (rfl | ⟨others, rfl, -⟩)
      · simp [byteSize]
      · rw [byteSize]
        omega

/-! ## Cuts -/

theorem IsSecond.cases (second : IsSecond digits) :
    (∃ unit, digits = [unit]) ∨ ∃ tens units, digits = [tens, units] := by
  obtain ⟨filled, -, short⟩ := second
  match digits with
  | [] => exact absurd rfl filled
  | [unit] => exact .inl ⟨unit, rfl⟩
  | [tens, units] => exact .inr ⟨tens, units, rfl⟩
  | _ :: _ :: _ :: _ => simp at short

/-- Of the texts that are cut short, only one that has lost the last of two digits of the seconds
is read. -/
theorem LeadsTo.eq_of_front {moments : Nat → Option DateTime} {other : DateTime}
    (leads : LeadsTo front moments) (second : IsSecond digits)
    (within : chars <+: front ++ digits) (proper : chars ≠ front ++ digits)
    (read : DateTime.readPlain chars = some other) :
    ∃ tens units, digits = [tens, units] ∧ chars = front ++ [tens] := by
  have beyond : ¬ chars <+: front := by
    intro inside
    rw [leads.short _ inside] at read
    cases read
  rcases List.prefix_or_prefix_of_prefix within (List.prefix_append front _) with
    inside | ⟨kept, rfl⟩
  · exact absurd inside beyond
  · rw [List.prefix_append_right_inj] at within
    have filled : kept ≠ [] := by
      rintro rfl
      exact beyond (by rw [List.append_nil])
    rcases second.cases with ⟨unit, rfl⟩ | ⟨tens, units, rfl⟩
    · simp only [List.prefix_cons_iff, List.prefix_nil, filled, false_or] at within
      obtain ⟨_, rfl, rfl⟩ := within
      exact absurd rfl proper
    · simp only [List.prefix_cons_iff, List.prefix_nil, filled, false_or] at within
      obtain ⟨_, rfl, rfl | ⟨_, rfl, rfl⟩⟩ := within
      · exact ⟨tens, units, rfl, rfl⟩
      · exact absurd rfl proper

/-- Reads the front of the size of a padded form, or all characters if there is no such front. -/
def readCut (chars : List Char) : Option DateTime :=
  DateTime.readPlain ((takeBytes? plainSize chars).getD chars)

theorem readCut_of_front (within : front <+: chars) (sized : byteSize front = plainSize) :
    readCut chars = DateTime.readPlain front := by
  rw [readCut, takeBytes?_eq_some_iff.mpr ⟨within, sized⟩, Option.getD_some]

theorem readCut_of_no_front (noFront : ∀ front, front <+: chars → byteSize front ≠ plainSize) :
    readCut chars = DateTime.readPlain chars := by
  have nothing : takeBytes? plainSize chars = none := by
    refine Option.eq_none_iff_forall_ne_some.mpr fun front taken => ?_
    obtain ⟨within, sized⟩ := takeBytes?_eq_some_iff.mp taken
    exact noFront front within sized
  rw [readCut, nothing, Option.getD_none]

section Shortened

variable {tens units : Char} {moments : Nat → Option DateTime}

theorem zeros_of_ofDigitChars (tensDigit : tens.isDigit) (unitsDigit : units.isDigit)
    (same : Nat.ofDigitChars 10 [tens, units] 0 = Nat.ofDigitChars 10 [tens] 0) :
    tens = '0' ∧ units = '0' := by
  have zero {c : Char} (code : c.toNat = 48) : c = '0' :=
    (Char.ofNat_toNat c).symm.trans (congrArg Char.ofNat code)
  obtain ⟨tensLeast, -⟩ := Char.isDigit_iff_toNat.mp tensDigit
  obtain ⟨unitsLeast, -⟩ := Char.isDigit_iff_toNat.mp unitsDigit
  have zeroCode : '0'.toNat = 48 := rfl
  simp only [Nat.ofDigitChars_cons, Nat.ofDigitChars_nil, zeroCode] at same tensLeast unitsLeast
  exact ⟨zero (by omega), zero (by omega)⟩

theorem byteSize_append_pair (digit : units.isDigit) :
    byteSize (front ++ [tens, units]) = byteSize (front ++ [tens]) + 1 := by
  rw [← byteSize_append_digit digit, List.append_assoc, List.singleton_append]

variable (leads : LeadsTo front moments) (second : IsSecond [tens, units])

include leads second

theorem LeadsTo.readPlain_shortened :
    DateTime.readPlain (front ++ [tens]) = moments (Nat.ofDigitChars 10 [tens] 0) := by
  refine leads.whole [tens] ⟨List.cons_ne_nil _ _, fun c member => ?_, by simp⟩
  exact second.digit c (List.mem_cons.mpr (.inl (List.mem_singleton.mp member)))

/-- Only seconds of two zeros are the same without the second one. -/
theorem LeadsTo.zeros_of_shortened
    (own : moments (Nat.ofDigitChars 10 [tens, units] 0) = some moment)
    (shortened : moments (Nat.ofDigitChars 10 [tens] 0) = some moment) :
    tens = '0' ∧ units = '0' := by
  have same := (leads.clockSecond _ _ own).symm.trans (leads.clockSecond _ _ shortened)
  exact zeros_of_ofDigitChars (second.digit tens (by simp)) (second.digit units (by simp)) same

end Shortened

section LeadsTo

variable {moments : Nat → Option DateTime} (leads : LeadsTo front moments)
  (second : IsSecond digits)

include leads second

theorem LeadsTo.readCut_pointed
    (noFront : ∀ short, short <+: front ++ digits → byteSize short ≠ plainSize) :
    readCut (front ++ digits ++ '.' :: tail) = none := by
  by_cases cut : ∃ short, short <+: front ++ digits ++ '.' :: tail ∧ byteSize short = plainSize
  · obtain ⟨short, within, sized⟩ := cut
    rw [readCut_of_front within sized]
    rcases List.prefix_or_prefix_of_prefix within (List.prefix_append _ _) with
      inside | ⟨more, rfl⟩
    · exact absurd sized (noFront _ inside)
    · rw [List.prefix_append_right_inj, List.prefix_cons_iff] at within
      rcases within with rfl | ⟨others, rfl, -⟩
      · exact absurd sized (noFront _ (by rw [List.append_nil]))
      · exact leads.pointed digits others second
  · rw [readCut_of_no_front fun short within sized => cut ⟨short, within, sized⟩]
    exact leads.pointed digits tail second

/-- What the cut makes of a text with nothing or a point behind it. -/
theorem LeadsTo.readCut_eq_some_iff {other : DateTime}
    (pointed : tail = [] ∨ ∃ more, tail = '.' :: more) :
    readCut (front ++ digits ++ tail) = some other ↔
      byteSize (front ++ digits) = 19 ∧ DateTime.readPlain (front ++ digits) = some other ∨
      (byteSize (front ++ digits) = 20 ∧ ∃ tens units, digits = [tens, units] ∧
        moments (Nat.ofDigitChars 10 [tens] 0) = some other) ∨
      tail = [] ∧ (∀ short, short <+: front ++ digits → byteSize short ≠ 19) ∧
        DateTime.readPlain (front ++ digits) = some other := by
  constructor
  · intro read
    -- A front of the size is the whole form, lacks the last digit of it or is refused.
    by_cases cut : ∃ short, short <+: front ++ digits ∧ byteSize short = plainSize
    · obtain ⟨short, within, sized⟩ := cut
      rw [readCut_of_front (within.trans (List.prefix_append _ _)) sized] at read
      by_cases whole : short = front ++ digits
      · subst whole
        exact .inl ⟨sized, read⟩
      · obtain ⟨tens, units, rfl, rfl⟩ := leads.eq_of_front second within whole read
        rw [leads.readPlain_shortened second] at read
        have longer : byteSize (front ++ [tens, units]) = byteSize (front ++ [tens]) + 1 :=
          byteSize_append_pair (second.digit units (by simp))
        exact .inr (.inl ⟨longer.trans (congrArg (· + 1) sized), tens, units, rfl, read⟩)
    · have noFront : ∀ short, short <+: front ++ digits → byteSize short ≠ plainSize :=
        fun short within sized => cut ⟨short, within, sized⟩
      rcases pointed with rfl | ⟨more, rfl⟩
      · rw [List.append_nil, readCut_of_no_front noFront] at read
        exact .inr (.inr ⟨rfl, noFront, read⟩)
      · rw [leads.readCut_pointed second noFront] at read
        cases read
  · rintro (⟨sized, read⟩ | ⟨sized, tens, units, rfl, read⟩ | ⟨rfl, noFront, read⟩)
    · rwa [readCut_of_front (List.prefix_append _ _) sized]
    · have within : front ++ [tens] <+: front ++ [tens, units] ++ tail := ⟨units :: tail, by simp⟩
      rw [byteSize_append_pair (second.digit units (by simp))] at sized
      rw [readCut_of_front within (Nat.succ.inj sized), leads.readPlain_shortened second, read]
    · rw [List.append_nil, readCut_of_no_front noFront, read]

section Whole

variable (read : DateTime.readPlain (front ++ digits) = some moment)
  (pointed : tail = [] ∨ ∃ more, tail = '.' :: more)

include read pointed

theorem LeadsTo.readCut_eq_self_iff : readCut (front ++ digits ++ tail) = some moment ↔
    byteSize (front ++ digits) = 19 ∨
    byteSize (front ++ digits) = 20 ∧ digits = ['0', '0'] ∨
    tail = [] ∧ ∀ short, short <+: front ++ digits → byteSize short ≠ 19 := by
  have own := (leads.whole digits second).symm.trans read
  rw [leads.readCut_eq_some_iff second pointed]
  constructor
  · rintro (⟨sized, -⟩ | ⟨sized, tens, units, rfl, shortened⟩ | ⟨rfl, noFront, -⟩)
    · exact .inl sized
    · obtain ⟨rfl, rfl⟩ := leads.zeros_of_shortened second own shortened
      exact .inr (.inl ⟨sized, rfl⟩)
    · exact .inr (.inr ⟨rfl, noFront⟩)
  · rintro (sized | ⟨sized, rfl⟩ | ⟨rfl, noFront⟩)
    · exact .inl ⟨sized, read⟩
    · exact .inr (.inl ⟨sized, '0', '0', rfl, own⟩)
    · exact .inr (.inr ⟨rfl, noFront, read⟩)

theorem LeadsTo.readCut_eq_other_iff :
    (∃ other, readCut (front ++ digits ++ tail) = some other ∧ other ≠ moment) ↔
      byteSize (front ++ digits) = 20 ∧
        ∃ tens units, digits = [tens, units] ∧ ¬ (tens = '0' ∧ units = '0') := by
  have own := (leads.whole digits second).symm.trans read
  simp only [leads.readCut_eq_some_iff second pointed]
  constructor
  · rintro ⟨other, ⟨-, same⟩ | ⟨sized, tens, units, rfl, shortened⟩ | ⟨-, -, same⟩, different⟩
    · exact absurd (Option.some.inj (same.symm.trans read)) different
    · refine ⟨sized, tens, units, rfl, ?_⟩
      rintro ⟨rfl, rfl⟩
      exact different (Option.some.inj (shortened.symm.trans own))
    · exact absurd (Option.some.inj (same.symm.trans read)) different
  · rintro ⟨sized, tens, units, rfl, notZeros⟩
    have less : Nat.ofDigitChars 10 [tens] 0 ≤ Nat.ofDigitChars 10 [tens, units] 0 := by
      simp only [Nat.ofDigitChars_cons, Nat.ofDigitChars_nil]
      omega
    obtain ⟨other, shortened⟩ := leads.earlier _ _ own _ less
    refine ⟨other, .inr (.inl ⟨sized, tens, units, rfl, shortened⟩), ?_⟩
    rintro rfl
    exact notZeros (leads.zeros_of_shortened second own shortened)

end Whole

theorem LeadsTo.suffix_iff {tens units : Char} (digit : tens.isDigit) :
    [tens, units] <:+ front ++ digits ↔ digits = [tens, units] := by
  constructor
  · rintro ⟨before, same⟩
    rcases second.cases with ⟨unit, rfl⟩ | ⟨_, _, rfl⟩
    · have parts : (before ++ [tens]) ++ [units] = front ++ [unit] := by simpa using same
      obtain ⟨rfl, -⟩ := List.append_inj' parts rfl
      exact absurd digit (leads.ends tens (by simp))
    · exact (List.append_inj' same rfl).2.symm
  · rintro rfl
    exact List.suffix_append _ _

end LeadsTo

/-! ## Margins -/

/-- The margin in front of a datetime is no part of it, and behind it there is none. -/
theorem trimChars_of_readPlain (read : DateTime.readPlain chars = some moment) :
    Text.trimChars chars = skipBlanks chars ∧
      ∀ fraction, ∃ tail, Text.trimChars (chars ++ '.' :: fraction) =
        skipBlanks chars ++ '.' :: tail := by
  obtain ⟨front, digits, _, -, second, same⟩ :=
    exists_leadsTo (readPlain_skipBlanks.trans read)
  obtain ⟨last, ends⟩ : ∃ last, digits.getLast? = some last :=
    Option.ne_none_iff_exists'.mp (mt List.getLast?_eq_none_iff.mp second.filled)
  obtain ⟨first, starts⟩ : ∃ first, (skipBlanks chars).head? = some first := by
    refine Option.ne_none_iff_exists'.mp (mt List.head?_eq_none_iff.mp ?_)
    simp [same, second.filled]
  have lastDark := Text.isBlank_of_isDigit (second.digit last (List.mem_of_mem_getLast? ends))
  rw [← List.getLast?_append_of_ne_nil front second.filled, ← same] at ends
  have around (after : List Char) : Text.trimChars (chars ++ after) =
      skipBlanks chars ++ (after.reverse.dropWhile isBlank).reverse := by
    have margin : (chars.takeWhile isBlank).dropWhile isBlank = [] :=
      List.dropWhile_eq_nil_iff.mpr fun c => List.mem_takeWhile_imp
    have parts : chars = chars.takeWhile isBlank ++ skipBlanks chars :=
      List.takeWhile_append_dropWhile.symm
    calc Text.trimChars (chars ++ after)
      _ = Text.trimChars (chars.takeWhile isBlank ++ skipBlanks chars ++ after) := by rw [← parts]
      _ = _ := by
          rw [Text.trimChars_around starts (isBlank_of_head?_skipBlanks first starts) ends lastDark,
            margin, List.nil_append]
  refine ⟨by simpa using around [], fun fraction =>
    ⟨(fraction.reverse.dropWhile isBlank).reverse, ?_⟩⟩
  have point : ['.'].head? = some '.' := rfl
  rw [around, List.reverse_cons, Text.dropWhile_isBlank_append point (by decide)]
  simp

/-- A text in plain form, with nothing or a fraction behind it, is read as its datetime exactly if
without its margin it has the size of a padded form, if it has one byte more and ends with two
zeros, or if nothing is behind it and none of its fronts has that size. It is read as another
datetime exactly if it has one byte more and ends with two other digits. -/
theorem padded_forms_are_read {text suffix : String}
    (accepted : DateTime.readPlain text.toList = some moment)
    (fraction : suffix = "" ∨ ∃ rest, suffix = "." ++ rest) :
    (DateTime.ofText? (text ++ suffix) = some moment ↔
      byteSize (Text.trimChars text.toList) = 19 ∨
      byteSize (Text.trimChars text.toList) = 20 ∧ ['0', '0'] <:+ Text.trimChars text.toList ∨
      suffix = "" ∧ ∀ short, short <+: Text.trimChars text.toList → byteSize short ≠ 19) ∧
    ((∃ other, DateTime.ofText? (text ++ suffix) = some other ∧ other ≠ moment) ↔
      byteSize (Text.trimChars text.toList) = 20 ∧ ∃ tens units : Char,
        tens.isDigit ∧ units.isDigit ∧ ¬ (tens = '0' ∧ units = '0') ∧
          [tens, units] <:+ Text.trimChars text.toList) := by
  obtain ⟨trimmed, margins⟩ := trimChars_of_readPlain accepted
  have read := readPlain_skipBlanks.trans accepted
  obtain ⟨front, digits, moments, leads, second, same⟩ := exists_leadsTo read
  obtain ⟨tail, pointed, empty, whole⟩ : ∃ tail, (tail = [] ∨ ∃ more, tail = '.' :: more) ∧
      (tail = [] ↔ suffix = "") ∧
      Text.trimChars (text ++ suffix).toList = front ++ digits ++ tail := by
    rcases fraction with rfl | ⟨rest, rfl⟩
    · exact ⟨[], .inl rfl, by simp, by simp [trimmed, same]⟩
    · obtain ⟨more, around⟩ := margins rest.toList
      exact ⟨'.' :: more, .inr ⟨more, rfl⟩, by simp, by simpa [same] using around⟩
  have cut : DateTime.ofText? (text ++ suffix) = readCut (front ++ digits ++ tail) :=
    congrArg readCut whole
  rw [same] at read
  rw [trimmed, same, cut, ← empty, leads.suffix_iff second (by decide)]
  refine ⟨leads.readCut_eq_self_iff second read pointed,
    (leads.readCut_eq_other_iff second read pointed).trans (and_congr_right fun _ => ?_)⟩
  constructor
  · rintro ⟨tens, units, rfl, notZeros⟩
    exact ⟨tens, units, second.digit tens (by simp), second.digit units (by simp), notZeros,
      List.suffix_append _ _⟩
  · rintro ⟨tens, units, tensDigit, -, notZeros, ends⟩
    exact ⟨tens, units, (leads.suffix_iff second tensDigit).mp ends, notZeros⟩

/-- A padded form with a fraction, and a form with a second blank. -/
theorem tenths_are_dropped :
    (∃ moment, DateTime.readPlain "2020-01-01 10:00:05".toList = some moment ∧
      DateTime.ofText? ("2020-01-01 10:00:05" ++ ".5") = some moment) ∧
    ∃ moment, DateTime.readPlain "2020-01-01  10:00:05".toList = some moment ∧
      ∃ other, DateTime.ofText? ("2020-01-01  10:00:05" ++ ".5") = some other ∧ other ≠ moment := by
  obtain ⟨padded, paddedRead⟩ : ∃ moment,
      DateTime.readPlain "2020-01-01 10:00:05".toList = some moment :=
    Option.isSome_iff_exists.mp (by decide +kernel)
  obtain ⟨spaced, spacedRead⟩ : ∃ moment,
      DateTime.readPlain "2020-01-01  10:00:05".toList = some moment :=
    Option.isSome_iff_exists.mp (by decide +kernel)
  refine ⟨⟨padded, paddedRead, ?_⟩, spaced, spacedRead, ?_⟩
  · exact (padded_forms_are_read paddedRead (.inr ⟨"5", rfl⟩)).1.mpr (.inl (by decide +kernel))
  · exact (padded_forms_are_read spacedRead (.inr ⟨"5", rfl⟩)).2.mpr
      ⟨by decide +kernel, '0', '5', by decide +kernel⟩

/-- A second blank between date and time takes the last digit of the seconds over the cut. -/
theorem spaced_second_is_cut :
    (DateTime.readPlain "2020-01-01  10:00:05".toList).map DateTime.plainText =
      some "2020-01-01 10:00:05" ∧
    (DateTime.ofText? "2020-01-01  10:00:05").map DateTime.plainText =
      some "2020-01-01 10:00:00" ∧
    DateTime.ofText? "2020-01-01  10:00:05" ≠
      DateTime.readPlain "2020-01-01  10:00:05".toList := by
  decide +kernel

end Sharding.Calendar
