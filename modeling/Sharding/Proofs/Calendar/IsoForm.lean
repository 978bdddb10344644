import Sharding.Proofs.Calendar.Distance
import Sharding.Proofs.Calendar.Fields
import Sharding.Proofs.Calendar.Steady

/-!
# Texts in ISO form

The texts that are read as datetimes in ISO form: fields with signs between them, and any blanks
before each and behind the last one. A datetime is written in this form, so it is found again in
what is written.
-/

set_option autoImplicit false

namespace Sharding.Calendar

open Text (isBlank)

open scoped Word

/-! ## Forms -/

structure Digits (digits : List Char) (n : Nat) : Prop where
  filled : digits ≠ []
  digit : ∀ c ∈ digits, c.isDigit
  value : Nat.ofDigitChars 10 digits 0 = n

/-- One digit or two. -/
structure FieldForm (digits : List Char) (n : Nat) : Prop extends Digits digits n where
  short : digits.length ≤ 2

/-- A year without a sign has four digits at most. -/
inductive YearForm : List Char → Int → Prop where
  | plain {digits : List Char} {n : Nat} (form : Digits digits n) (short : digits.length ≤ 4) :
      YearForm digits n
  | plus {digits : List Char} {n : Nat} (form : Digits digits n) : YearForm ('+' :: digits) n
  | minus {digits : List Char} {n : Nat} (form : Digits digits n) : YearForm ('-' :: digits) (-n)

/-- The first nine digits behind the point, with zeros for those that are missing. -/
def nanosOf (digits : List Char) : Nat :=
  Nat.ofDigitChars 10 ((digits ++ List.replicate 9 '0').take 9) 0

inductive FractionForm : List Char → Nat → Prop where
  | none : FractionForm [] 0
  | point {digits : List Char} (filled : digits ≠ []) (digit : ∀ c ∈ digits, c.isDigit) :
      FractionForm ('.' :: digits) (nanosOf digits)

/-- The pieces stand one after the other, with any blanks before each and behind the last. -/
inductive Spread : List (List Char) → List Char → Prop where
  | nil {blanks : List Char} (blank : ∀ c ∈ blanks, isBlank c) : Spread [] blanks
  | cons {blanks piece rest chars : List Char} {pieces : List (List Char)}
      (blank : ∀ c ∈ blanks, isBlank c) (same : chars = blanks ++ (piece ++ rest))
      (more : Spread pieces rest) : Spread (piece :: pieces) chars

/-- The fields of a datetime in ISO form. A leap second is second 60. -/
inductive IsoForm (chars : List Char) (moment : DateTime) : Prop where
  | fields {year month day hour minute second fraction : List Char}
      (yearForm : YearForm year moment.date.year) (monthForm : FieldForm month moment.date.month)
      (dayForm : FieldForm day moment.date.day) (hourForm : FieldForm hour moment.time.hour)
      (minuteForm : FieldForm minute moment.time.minute)
      (secondForm : FieldForm second moment.time.clockSecond)
      (fractionForm : FractionForm fraction moment.time.clockNano)
      (spread : Spread [year, ['-'], month, ['-'], day, ['T'], hour, [':'], minute, [':'],
        second ++ fraction] chars)

variable {α : Type} {chars rest digits piece : List Char} {pieces : List (List Char)} {c : Char}
  {most n : Nat} {moment : DateTime}

/-! ## Digits -/

theorem Digits.readDigits (form : Digits digits n) (short : digits.length ≤ most)
    (ends : ∀ c ∈ rest.head?, ¬ c.isDigit) :
    Calendar.readDigits most (digits ++ rest) = some (n, rest) :=
  readDigits_eq_some_iff.mpr
    ⟨digits, form.filled, form.digit, short, fun _ => ends, rfl, form.value⟩

theorem exists_digits (read : readDigits most chars = some (n, rest)) :
    ∃ digits, Digits digits n ∧ digits.length ≤ most ∧ chars = digits ++ rest := by
  obtain ⟨digits, filled, digit, short, -, same, value⟩ := readDigits_eq_some_iff.mp read
  exact ⟨digits, ⟨filled, digit, value⟩, short, same⟩

theorem Digits.head?_dark (form : Digits digits n) :
    ∀ c ∈ (digits ++ rest).head?, isBlank c = false := by
  rw [List.head?_append_of_ne_nil _ form.filled]
  exact fun c member => Text.isBlank_of_isDigit (form.digit c (List.mem_of_mem_head? member))

theorem nanosOf_eq (digits : List Char) :
    nanosOf digits = Nat.ofDigitChars 10 (digits.take 9) 0 * 10 ^ (9 - digits.length) := by
  rw [nanosOf, List.take_append, List.take_replicate, Nat.min_eq_left (Nat.sub_le ..),
    Nat.ofDigitChars_append, Nat.ofDigitChars_replicate_zero, Nat.mul_comm]

/-! ## Readers -/

theorem exists_blanks (chars : List Char) :
    ∃ blanks, (∀ c ∈ blanks, isBlank c) ∧ chars = blanks ++ skipBlanks chars :=
  ⟨chars.takeWhile isBlank, fun _ => List.mem_takeWhile_imp,
    List.takeWhile_append_dropWhile.symm⟩

theorem not_isDigit_of_isBlank (blank : isBlank c) : ¬ c.isDigit := by
  intro digit
  rw [Text.isBlank_of_isDigit digit] at blank
  cases blank

theorem not_isDigit_of_head? {blanks : List Char} (blank : ∀ c ∈ blanks, isBlank c)
    (ends : ∀ c ∈ rest.head?, ¬ c.isDigit) : ∀ c ∈ (blanks ++ rest).head?, ¬ c.isDigit := by
  cases blanks with
  | nil => exact ends
  | cons first blanks =>
      intro c member
      cases member
      exact not_isDigit_of_isBlank (blank first List.mem_cons_self)

/-- The reader finds the pieces of a form, behind any blanks and with no digit behind them. -/
structure Finds (read : List Char → Option (α × List Char)) (form : List Char → α → Prop) :
    Prop where
  sound : ∀ {chars value rest}, read chars = some (value, rest) →
    ∃ blanks piece, form piece value ∧ (∀ c ∈ blanks, isBlank c) ∧
      chars = blanks ++ (piece ++ rest)
  complete : ∀ {blanks piece value rest}, form piece value → (∀ c ∈ blanks, isBlank c) →
    (∀ c ∈ rest.head?, ¬ c.isDigit) → read (blanks ++ (piece ++ rest)) = some (value, rest)

theorem finds_readField : Finds readField FieldForm where
  sound {chars n rest} read := by
    obtain ⟨blanks, blank, parts⟩ := exists_blanks chars
    obtain ⟨digits, form, short, same⟩ := exists_digits read
    rw [same] at parts
    exact ⟨blanks, digits, ⟨form, short⟩, blank, parts⟩
  complete form blank ends := by
    rw [readField, skipBlanks_append blank, skipBlanks_eq_self form.head?_dark]
    exact form.readDigits form.short ends

theorem exists_digits_of_map (signed : Nat → Int) {year : Int}
    (read : ((readDigits most chars).map fun (n, rest) => (signed n, rest)) = some (year, rest)) :
    ∃ digits n, Digits digits n ∧ digits.length ≤ most ∧ chars = digits ++ rest ∧
      signed n = year := by
  obtain ⟨⟨n, _⟩, found, same⟩ := Option.map_eq_some_iff.mp read
  cases same
  obtain ⟨digits, form, short, parts⟩ := exists_digits found
  exact ⟨digits, n, form, short, parts, rfl⟩

theorem exists_yearForm {year : Int} (read : readSigned chars = some (year, rest)) :
    ∃ piece, YearForm piece year ∧ chars = piece ++ rest := by
  unfold readSigned at read
  split at read
  next =>
    obtain ⟨digits, n, form, -, rfl, rfl⟩ := exists_digits_of_map (fun n => -(n : Int)) read
    exact ⟨'-' :: digits, .minus form, rfl⟩
  next =>
    obtain ⟨digits, n, form, -, rfl, rfl⟩ := exists_digits_of_map (fun n => (n : Int)) read
    exact ⟨'+' :: digits, .plus form, rfl⟩
  next =>
    obtain ⟨digits, n, form, short, rfl, rfl⟩ := exists_digits_of_map (fun n => (n : Int)) read
    exact ⟨digits, .plain form short, rfl⟩

theorem YearForm.head?_dark {year : Int} (form : YearForm piece year) :
    ∀ c ∈ (piece ++ rest).head?, isBlank c = false := by
  cases form with
  | plain form _ => exact form.head?_dark
  | plus _ | minus _ =>
      rintro _ ⟨⟩
      decide

theorem YearForm.readSigned {year : Int} (form : YearForm piece year)
    (ends : ∀ c ∈ rest.head?, ¬ c.isDigit) :
    Calendar.readSigned (piece ++ rest) = some (year, rest) := by
  cases form with
  | plus form | minus form =>
      simp only [List.cons_append, Calendar.readSigned]
      rw [form.readDigits (by simp) ends]
      rfl
  | plain form short =>
      obtain ⟨first, others, rfl⟩ := List.exists_cons_of_ne_nil form.filled
      have digit := form.digit first List.mem_cons_self
      unfold Calendar.readSigned
      split
      next same =>
        cases same
        exact absurd digit (by decide)
      next same =>
        cases same
        exact absurd digit (by decide)
      next =>
        rw [form.readDigits short ends]
        rfl

theorem finds_readYear : Finds readYear YearForm where
  sound {chars year rest} read := by
    obtain ⟨blanks, blank, parts⟩ := exists_blanks chars
    obtain ⟨piece, form, same⟩ := exists_yearForm read
    rw [same] at parts
    exact ⟨blanks, piece, form, blank, parts⟩
  complete form blank ends := by
    change readSigned (skipBlanks _) = _
    rw [skipBlanks_append blank, skipBlanks_eq_self form.head?_dark]
    exact form.readSigned ends

/-- A field and the sign behind it. -/
def readBefore (sign : Char) (read : List Char → Option (α × List Char)) (chars : List Char) :
    Option (α × List Char) := do
  let (value, chars) ← read chars
  (expect sign (skipBlanks chars)).map fun chars => (value, chars)

/-- The second with its fraction, and nothing but blanks behind them. -/
def readLast (chars : List Char) : Option (Nat × Nat) := do
  let (second, chars) ← readField chars
  let (nano, chars) ← readNanos chars
  if (skipBlanks chars).isEmpty then some (second, nano) else none

theorem readIso_eq : DateTime.readIso chars = (do
    let (year, chars) ← readBefore '-' readYear chars
    let (month, chars) ← readBefore '-' readField chars
    let (day, chars) ← readBefore 'T' readField chars
    let (hour, chars) ← readBefore ':' readField chars
    let (minute, chars) ← readBefore ':' readField chars
    let (second, nano) ← readLast chars
    DateTime.ofFields? year month day hour minute second nano) := by
  have last (blank : Bool) (fields : Nat × Nat) (next : Nat × Nat → Option DateTime) :
      (if blank then some fields else none).bind next = if blank then next fields else none := by
    cases blank <;> rfl
  simp only [DateTime.readIso, readBefore, readLast, bind, Option.bind_assoc, Option.bind_map,
    Function.comp_def, last]

namespace Finds

variable {read : List Char → Option (α × List Char)} {form : List Char → α → Prop} {value : α}
  {sign : Char}

theorem spread (finds : Finds read form) (found : readBefore sign read chars = some (value, rest)) :
    ∃ piece, form piece value ∧
      ∀ {pieces}, Spread pieces rest → Spread (piece :: [sign] :: pieces) chars := by
  obtain ⟨⟨value, middle⟩, started, signed⟩ := Option.bind_eq_some_iff.mp found
  obtain ⟨rest, expected, same⟩ := Option.map_eq_some_iff.mp signed
  cases same
  obtain ⟨_, piece, ofForm, blank, same⟩ := finds.sound started
  obtain ⟨_, between, parts⟩ := exists_blanks middle
  rw [expect_eq_some_iff.mp expected] at parts
  exact ⟨piece, ofForm, fun more => .cons blank same (.cons between parts more)⟩

theorem of_spread (finds : Finds read form) (ofForm : form piece value) (noDigit : ¬ sign.isDigit)
    (dark : isBlank sign = false) (spread : Spread (piece :: [sign] :: pieces) chars) :
    ∃ rest, Spread pieces rest ∧ readBefore sign read chars = some (value, rest) := by
  cases spread with
  | cons blank same more =>
      cases more with
      | @cons blanks _ rest _ _ between signed more =>
          subst same signed
          refine ⟨rest, more, Option.bind_eq_some_iff.mpr ⟨_, finds.complete ofForm blank ?_, ?_⟩⟩
          · exact not_isDigit_of_head? between (by simpa using noDigit)
          · dsimp only
            rw [skipBlanks_append between, skipBlanks_eq_self (by simp [dark])]
            simp [expect]

end Finds

theorem readNanos_point (filled : digits ≠ []) (digit : ∀ c ∈ digits, c.isDigit)
    (ends : ∀ c ∈ rest.head?, ¬ c.isDigit) :
    readNanos ('.' :: (digits ++ rest)) = some (nanosOf digits, rest) := by
  have parts : digits ++ rest = digits.take 9 ++ (digits.drop 9 ++ rest) := by
    rw [← List.append_assoc, List.take_append_drop]
  have first : readDigits 9 (digits ++ rest) =
      some (Nat.ofDigitChars 10 (digits.take 9) 0, digits.drop 9 ++ rest) := by
    refine readDigits_eq_some_iff.mpr ⟨digits.take 9, by simpa using filled,
      fun c member => digit c (List.mem_of_mem_take member), List.length_take_le ..,
      fun short => ?_, parts, rfl⟩
    rw [List.drop_of_length_le (by rw [List.length_take] at short; omega)]
    exact ends
  have left : (digits.drop 9 ++ rest).dropWhile Char.isDigit = rest := by
    rw [List.dropWhile_append_of_pos fun c member => digit c (List.mem_of_mem_drop member)]
    cases rest with
    | nil => rfl
    | cons c rest => exact List.dropWhile_cons_of_neg (ends c rfl)
  have counted : 9 - ((digits ++ rest).length - (digits.drop 9 ++ rest).length) =
      9 - digits.length := by
    rw [List.length_append, List.length_append, List.length_drop]
    omega
  rw [readNanos, first, nanosOf_eq]
  simp only [bind, Option.bind_some, left, counted]
  rfl

theorem exists_fractionForm {nano : Nat} (read : readNanos chars = some (nano, rest)) :
    ∃ fraction, FractionForm fraction nano ∧ chars = fraction ++ rest := by
  unfold readNanos at read
  split at read
  next behind =>
    change readNanos ('.' :: behind) = _ at read
    have filled : behind.takeWhile Char.isDigit ≠ [] := by
      obtain ⟨_, first, -⟩ := Option.bind_eq_some_iff.mp read
      obtain ⟨digits, form, -, rfl⟩ := exists_digits first
      simp [List.takeWhile_append_of_pos form.digit, form.filled]
    have ends : ∀ c ∈ (behind.dropWhile Char.isDigit).head?, ¬ c.isDigit := by
      intro c member
      have other := List.head?_dropWhile_not Char.isDigit behind
      rw [member] at other
      exact ne_true_of_eq_false other
    have whole := readNanos_point filled (fun c => List.mem_takeWhile_imp) ends
    rw [List.takeWhile_append_dropWhile, read] at whole
    cases whole
    exact ⟨_, .point filled fun c => List.mem_takeWhile_imp, by simp⟩
  next =>
    cases read
    exact ⟨[], .none, rfl⟩

section

variable {fraction : List Char} {nano : Nat} (form : FractionForm fraction nano)
  (blank : ∀ c ∈ rest, isBlank c)

include form blank

theorem FractionForm.not_isDigit : ∀ c ∈ (fraction ++ rest).head?, ¬ c.isDigit := by
  cases form with
  | none =>
      exact fun c member => not_isDigit_of_isBlank (blank c (List.mem_of_mem_head? member))
  | point _ _ => simp

theorem FractionForm.readNanos : Calendar.readNanos (fraction ++ rest) = some (nano, rest) := by
  cases form with
  | none =>
      unfold Calendar.readNanos
      split
      next same =>
        rw [List.nil_append] at same
        exact absurd (blank '.' (by simp [same])) (by decide)
      next => rfl
  | point filled digit =>
      refine readNanos_point filled digit fun c member => ?_
      exact not_isDigit_of_isBlank (blank c (List.mem_of_mem_head? member))

end

theorem readLast_eq_some_iff {second nano : Nat} :
    readLast chars = some (second, nano) ↔ ∃ digits fraction, FieldForm digits second ∧
      FractionForm fraction nano ∧ Spread [digits ++ fraction] chars := by
  constructor
  · intro read
    obtain ⟨⟨second, middle⟩, secondRead, read⟩ := Option.bind_eq_some_iff.mp read
    obtain ⟨⟨nano, rest⟩, nanoRead, read⟩ := Option.bind_eq_some_iff.mp read
    obtain ⟨nothing, same⟩ := Option.ite_none_right_eq_some.mp read
    cases same
    obtain ⟨_, digits, form, before, rfl⟩ := finds_readField.sound secondRead
    obtain ⟨fraction, fractionForm, rfl⟩ := exists_fractionForm nanoRead
    have behind : ∀ c ∈ rest, isBlank c :=
      List.dropWhile_eq_nil_iff.mp (List.isEmpty_iff.mp nothing)
    exact ⟨digits, fraction, form, fractionForm,
      .cons before (by rw [List.append_assoc]) (.nil behind)⟩
  · rintro ⟨digits, fraction, form, fractionForm, spread⟩
    cases spread with
    | cons before same more =>
        cases more with
        | nil behind =>
            rw [List.append_assoc] at same
            subst same
            rw [readLast, finds_readField.complete form before
              (fractionForm.not_isDigit behind)]
            simp only [bind, Option.bind_some, fractionForm.readNanos behind, skipBlanks,
              List.dropWhile_eq_nil_iff.mpr behind, List.isEmpty_nil, if_true]

/-! ## Reading -/

theorem isoForm_of_readIso (read : DateTime.readIso chars = some moment) :
    IsoForm chars moment := by
  rw [readIso_eq] at read
  obtain ⟨⟨year, _⟩, yearRead, read⟩ := Option.bind_eq_some_iff.mp read
  obtain ⟨⟨month, _⟩, monthRead, read⟩ := Option.bind_eq_some_iff.mp read
  obtain ⟨⟨day, _⟩, dayRead, read⟩ := Option.bind_eq_some_iff.mp read
  obtain ⟨⟨hour, _⟩, hourRead, read⟩ := Option.bind_eq_some_iff.mp read
  obtain ⟨⟨minute, _⟩, minuteRead, read⟩ := Option.bind_eq_some_iff.mp read
  obtain ⟨⟨second, nano⟩, lastRead, read⟩ := Option.bind_eq_some_iff.mp read
  obtain ⟨⟨rfl, rfl, rfl⟩, rfl, rfl, rfl, rfl⟩ := DateTime.ofFields?_eq_some_iff.mp read
  obtain ⟨_, yearForm, fromYear⟩ := finds_readYear.spread yearRead
  obtain ⟨_, monthForm, fromMonth⟩ := finds_readField.spread monthRead
  obtain ⟨_, dayForm, fromDay⟩ := finds_readField.spread dayRead
  obtain ⟨_, hourForm, fromHour⟩ := finds_readField.spread hourRead
  obtain ⟨_, minuteForm, fromMinute⟩ := finds_readField.spread minuteRead
  obtain ⟨_, _, secondForm, fractionForm, fromSecond⟩ := readLast_eq_some_iff.mp lastRead
  exact .fields yearForm monthForm dayForm hourForm minuteForm secondForm fractionForm
    (fromYear (fromMonth (fromDay (fromHour (fromMinute fromSecond)))))

theorem IsoForm.readIso (form : IsoForm chars moment) :
    DateTime.readIso chars = some moment := by
  cases form with
  | fields yearForm monthForm dayForm hourForm minuteForm secondForm fractionForm spread =>
      obtain ⟨_, spread, yearRead⟩ :=
        finds_readYear.of_spread yearForm (by decide) (by decide) spread
      obtain ⟨_, spread, monthRead⟩ :=
        finds_readField.of_spread monthForm (by decide) (by decide) spread
      obtain ⟨_, spread, dayRead⟩ :=
        finds_readField.of_spread dayForm (by decide) (by decide) spread
      obtain ⟨_, spread, hourRead⟩ :=
        finds_readField.of_spread hourForm (by decide) (by decide) spread
      obtain ⟨_, spread, minuteRead⟩ :=
        finds_readField.of_spread minuteForm (by decide) (by decide) spread
      have lastRead := readLast_eq_some_iff.mpr ⟨_, _, secondForm, fractionForm, spread⟩
      rw [readIso_eq]
      simp only [yearRead, monthRead, dayRead, hourRead, minuteRead, lastRead, bind,
        Option.bind_some]
      exact DateTime.ofFields?_eq_some_iff.mpr ⟨⟨rfl, rfl, rfl⟩, rfl, rfl, rfl, rfl⟩

theorem ofIso?_eq_some_iff {text : String} :
    DateTime.ofIso? text = some moment ↔ IsoForm text.toList moment :=
  ⟨isoForm_of_readIso, IsoForm.readIso⟩

/-! ## Writing -/

theorem length_repr_le {width : Nat} (fits : n < 10 ^ (width + 1)) :
    n.repr.length ≤ width + 1 := by
  rw [← String.length_toList, Nat.toList_repr]
  exact (Nat.length_toDigits_le_iff (by decide) (Nat.succ_pos width)).mpr fits

theorem digits_padded (width n : Nat) : Digits (padded width n).toList n := by
  have whole : (padded width n).toList =
      List.replicate (width - n.repr.length) '0' ++ Nat.toDigits 10 n := by
    simp [padded]
  rw [whole]
  refine ⟨by simp [Nat.toDigits_ne_nil], fun c member => ?_, ?_⟩
  · rcases List.mem_append.mp member with zero | digit
    · rw [List.eq_of_mem_replicate zero]
      decide
    · exact Nat.isDigit_of_mem_toDigits (by decide) (by decide) digit
  · rw [Nat.ofDigitChars_append, Nat.ofDigitChars_replicate_zero, Nat.mul_zero,
      Nat.ofDigitChars_ten_toDigits]

theorem length_padded {width : Nat} (fits : n < 10 ^ (width + 1)) :
    (padded (width + 1) n).toList.length = width + 1 := by
  have short := length_repr_le fits
  simp only [padded, String.toList_append, String.toList_ofList, List.length_append,
    List.length_replicate, String.length_toList]
  omega

theorem fieldForm_padded (fits : n < 100) : FieldForm (padded 2 n).toList n :=
  ⟨digits_padded 2 n, (length_padded fits).le⟩

theorem yearForm_yearText (year : Int) : YearForm (yearText year).toList year := by
  have form := digits_padded 4 year.natAbs
  unfold yearText
  split
  next negative =>
    have back : year = -(year.natAbs : Int) := by omega
    rw [String.toList_append]
    nth_rewrite 2 [back]
    exact .minus form
  next =>
    have back : year = (year.natAbs : Int) := by omega
    split
    next =>
      rw [String.toList_append]
      nth_rewrite 2 [back]
      exact .plus form
    next short =>
      nth_rewrite 2 [back]
      exact .plain form (length_padded (by omega)).le

theorem fractionForm_padded {width scaled nano : Nat} (fits : scaled < 10 ^ (width + 1))
    (exact : scaled * 10 ^ (9 - (width + 1)) = nano) (short : width < 9) :
    FractionForm ("." ++ padded (width + 1) scaled).toList nano := by
  have form := digits_padded (width + 1) scaled
  have length := length_padded fits
  have nanos : nanosOf (padded (width + 1) scaled).toList = nano := by
    rw [nanosOf_eq, List.take_of_length_le (by omega), form.value, length, exact]
  rw [String.toList_append, ← nanos]
  exact .point form.filled form.digit

theorem fractionForm_fractionText {nano : Nat} (fits : nano < nanosPerSecond) :
    FractionForm (fractionText nano).toList nano := by
  unfold nanosPerSecond at fits
  unfold fractionText
  split
  next zero =>
    subst zero
    exact .none
  next =>
    split
    next millis => exact fractionForm_padded (by omega) (by omega) (by decide)
    next =>
      split
      next micros => exact fractionForm_padded (by omega) (by omega) (by decide)
      next => exact fractionForm_padded (by omega) (by omega) (by decide)

theorem spread_flatten (pieces : List (List Char)) : Spread pieces pieces.flatten := by
  induction pieces with
  | nil => exact .nil (fun _ member => absurd member List.not_mem_nil)
  | cons piece pieces ih =>
      rw [List.flatten_cons, ← List.nil_append (piece ++ _)]
      exact .cons (fun _ member => absurd member List.not_mem_nil) rfl ih

/-- A datetime is read again from what is written. -/
theorem isoForm_isoText (moment : DateTime) : IsoForm moment.isoText.toList moment := by
  obtain ⟨date, time⟩ := moment
  have days : date.day < 100 :=
    (date.day_le.trans (daysInMonth_le date.year date.month)).trans_lt (by decide)
  obtain ⟨second, nano⟩ := time.clock_bounds
  refine .fields (yearForm_yearText _)
    (fieldForm_padded (date.month_le.trans_lt (by decide))) (fieldForm_padded days)
    (fieldForm_padded (time.hour_lt.trans (by decide)))
    (fieldForm_padded (time.minute_lt.trans (by decide)))
    (fieldForm_padded (second.trans_lt (by decide)))
    (fractionForm_fractionText nano) ?_
  have pieces := spread_flatten [(yearText date.year).toList, ['-'], (padded 2 date.month).toList,
    ['-'], (padded 2 date.day).toList, ['T'], (padded 2 time.hour).toList, [':'],
    (padded 2 time.minute).toList, [':'],
    (padded 2 time.clockSecond).toList ++ (fractionText time.clockNano).toList]
  simpa [DateTime.isoText, dateText, clockText] using pieces

end Sharding.Calendar
