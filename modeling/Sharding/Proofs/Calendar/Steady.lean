import Mathlib.Data.List.Infix
import Sharding.Calendar.Text
import Sharding.Proofs.Text.Margins

/-!
# Steady readers

What a reader of a datetime finds at the front of a text does not depend on what stands behind it,
except that a digit may not come next where there was none. So the parts of a datetime up to its
minutes are found whatever the rest is.
-/

set_option autoImplicit false

namespace Sharding.Calendar

open Text (isBlank)

variable {α β : Type} {chars front rest : List Char} {c : Char}

/-! ## Blanks -/

theorem isBlank_of_head?_skipBlanks : ∀ c ∈ (skipBlanks chars).head?, isBlank c = false := by
  intro c member
  have first := List.head?_dropWhile_not isBlank chars
  rw [← skipBlanks, member] at first
  exact first

theorem skipBlanks_eq_self (dark : ∀ c ∈ chars.head?, isBlank c = false) :
    skipBlanks chars = chars :=
  Text.dropWhile_isBlank_eq_self dark

theorem skipBlanks_append (blank : ∀ c ∈ front, isBlank c) :
    skipBlanks (front ++ rest) = skipBlanks rest :=
  List.dropWhile_append_of_pos blank

/-! ## Steady readers -/

/-- What a reader finds depends on nothing behind it but a digit that comes next. -/
def Steady (read : List Char → Option (α × List Char)) : Prop :=
  ∀ chars value rest, read chars = some (value, rest) →
    ∃ front, front ≠ [] ∧ chars = front ++ rest ∧
      ∀ other, (∀ c ∈ other.head?, c.isDigit → c ∈ rest.head?) →
        read (front ++ other) = some (value, other)

theorem expect_eq_some_iff : expect c chars = some rest ↔ chars = c :: rest := by
  cases chars with
  | nil => simp [expect]
  | cons d chars =>
      rw [expect]
      split
      next same => simp [same]
      next different => simp [different]

namespace Steady

variable {read : List Char → Option (α × List Char)} {next : α → List Char → Option (β × List Char)}

theorem bind (steady : Steady read) (later : ∀ value, Steady (next value)) :
    Steady fun chars => (do
      let (value, rest) ← read chars
      next value rest) := by
  intro chars result rest found
  obtain ⟨⟨value, middle⟩, first, second⟩ := Option.bind_eq_some_iff.mp found
  obtain ⟨back, filled, rfl, stays⟩ := later value middle result rest second
  obtain ⟨front, front_filled, rfl, starts⟩ := steady chars value _ first
  refine ⟨front ++ back, by simp [filled], by simp, fun other follows => ?_⟩
  have same : (back ++ other).head? = (back ++ rest).head? := by
    rw [List.head?_append_of_ne_nil _ filled, List.head?_append_of_ne_nil _ filled]
  rw [List.append_assoc]
  refine Option.bind_eq_some_iff.mpr ⟨_, starts (back ++ other) ?_, stays other follows⟩
  rw [same]
  exact fun c member _ => member

theorem map (steady : Steady read) (f : α → β) :
    Steady fun chars => (read chars).map fun (value, rest) => (f value, rest) := by
  intro chars result rest found
  obtain ⟨⟨value, _⟩, first, same⟩ := Option.map_eq_some_iff.mp found
  cases same
  obtain ⟨front, filled, rfl, stays⟩ := steady chars value rest first
  exact ⟨front, filled, rfl, fun other follows => by simp [stays other follows]⟩

theorem expect (steady : Steady read) : Steady fun chars => (do
    let rest ← Calendar.expect c chars
    read rest) := by
  intro chars result rest found
  obtain ⟨_, starts, behind⟩ := Option.bind_eq_some_iff.mp found
  obtain ⟨front, -, rfl, stays⟩ := steady _ result rest behind
  rw [expect_eq_some_iff.mp starts]
  refine ⟨c :: front, by simp, rfl, fun other follows => ?_⟩
  exact Option.bind_eq_some_iff.mpr ⟨_, expect_eq_some_iff.mpr rfl, stays other follows⟩

theorem skipBlanks (steady : Steady read) :
    Steady fun chars => read (Calendar.skipBlanks chars) := by
  intro chars value rest found
  obtain ⟨front, filled, same, stays⟩ := steady _ value rest found
  refine ⟨chars.takeWhile isBlank ++ front, by simp [filled], ?_, fun other follows => ?_⟩
  · rw [List.append_assoc, ← same]
    exact List.takeWhile_append_dropWhile.symm
  · have first : (front ++ other).head? = (Calendar.skipBlanks chars).head? := by
      rw [same, List.head?_append_of_ne_nil _ filled, List.head?_append_of_ne_nil _ filled]
    have dark : ∀ c ∈ (front ++ other).head?, isBlank c = false :=
      first ▸ isBlank_of_head?_skipBlanks
    dsimp only
    rw [List.append_assoc, skipBlanks_append fun c member => List.mem_takeWhile_imp member,
      skipBlanks_eq_self dark, stays other follows]

end Steady

theorem takeWhile_isDigit_eq_nil_iff {most : Nat} : (chars.take most).takeWhile Char.isDigit = [] ↔
    (0 < most → ∀ c ∈ chars.head?, ¬ c.isDigit) := by
  cases chars with
  | nil => simp
  | cons c chars => cases most <;> simp [List.takeWhile_cons]

theorem readDigits_eq_some_iff {most n : Nat} : readDigits most chars = some (n, rest) ↔
    ∃ digits, digits ≠ [] ∧ (∀ c ∈ digits, c.isDigit) ∧ digits.length ≤ most ∧
      (digits.length < most → ∀ c ∈ rest.head?, ¬ c.isDigit) ∧
      chars = digits ++ rest ∧ Nat.ofDigitChars 10 digits 0 = n := by
  have front {digits rest : List Char} (all : ∀ c ∈ digits, c.isDigit)
      (fits : digits.length ≤ most) :
      ((digits ++ rest).take most).takeWhile Char.isDigit =
        digits ++ (rest.take (most - digits.length)).takeWhile Char.isDigit := by
    rw [List.take_append, List.take_of_length_le fits, List.takeWhile_append_of_pos all]
  constructor
  · intro read
    unfold readDigits at read
    generalize found : (chars.take most).takeWhile Char.isDigit = digits at read
    dsimp only at read
    have starts : digits <+: chars.take most := found ▸ List.takeWhile_prefix _
    have all : ∀ c ∈ digits, c.isDigit := fun c member =>
      List.mem_takeWhile_imp (found ▸ member)
    have fits : digits.length ≤ most := starts.length_le.trans (List.length_take_le ..)
    split at read
    next => cases read
    next filled =>
      cases read
      have parts : digits ++ chars.drop digits.length = chars :=
        List.prefix_iff_eq_append.mp (starts.trans (List.take_prefix ..))
      refine ⟨digits, by simpa using filled, all, fits, fun short => ?_, parts.symm, rfl⟩
      rw [← parts, front all fits, List.append_right_eq_self] at found
      exact takeWhile_isDigit_eq_nil_iff.mp found (by omega)
  · rintro ⟨digits, filled, all, fits, ends, rfl, rfl⟩
    have nothing : (rest.take (most - digits.length)).takeWhile Char.isDigit = [] :=
      takeWhile_isDigit_eq_nil_iff.mpr fun room => ends (by omega)
    rw [readDigits, front all fits, nothing, List.append_nil, List.drop_left]
    exact if_neg (by simpa using filled)

theorem steady_readDigits (most : Nat) : Steady (readDigits most) := by
  intro chars n rest read
  obtain ⟨digits, filled, all, fits, ends, rfl, rfl⟩ := readDigits_eq_some_iff.mp read
  refine ⟨digits, filled, rfl, fun other follows => readDigits_eq_some_iff.mpr
    ⟨digits, filled, all, fits, fun short c member digit => ?_, rfl, rfl⟩⟩
  exact ends short c (follows c member digit) digit

theorem steady_readField : Steady readField :=
  (steady_readDigits 2).skipBlanks

theorem steady_readAll : Steady fun chars => readDigits chars.length chars := by
  intro chars n rest read
  obtain ⟨digits, filled, all, -, ends, rfl, rfl⟩ := readDigits_eq_some_iff.mp read
  have ends : ∀ c ∈ rest.head?, ¬ c.isDigit := by
    intro c member
    refine ends ?_ c member
    have inside : rest ≠ [] := by
      rintro rfl
      cases member
    simpa [List.length_pos_iff] using inside
  refine ⟨digits, filled, rfl, fun other follows => readDigits_eq_some_iff.mpr
    ⟨digits, filled, all, by simp, fun _ c member digit => ?_, rfl, rfl⟩⟩
  exact ends c (follows c member digit) digit

/-- The year, where it has no blanks in front of it. -/
def readSigned (chars : List Char) : Option (Int × List Char) :=
  match chars with
  | '-' :: rest => (readDigits rest.length rest).map fun (n, rest) => (-n, rest)
  | '+' :: rest => (readDigits rest.length rest).map fun (n, rest) => (n, rest)
  | rest => (readDigits 4 rest).map fun (n, rest) => (n, rest)

theorem steady_readSigned : Steady readSigned := by
  intro chars year rest read
  unfold readSigned at read
  split at read
  next chars =>
    obtain ⟨front, -, rfl, stays⟩ := steady_readAll.map (fun n => -(n : Int)) _ year rest read
    exact ⟨'-' :: front, by simp, rfl, stays⟩
  next chars =>
    obtain ⟨front, -, rfl, stays⟩ := steady_readAll.map (fun n => (n : Int)) _ year rest read
    exact ⟨'+' :: front, by simp, rfl, stays⟩
  next noMinus noPlus =>
    obtain ⟨front, filled, rfl, stays⟩ :=
      (steady_readDigits 4).map (fun n => (n : Int)) _ year rest read
    refine ⟨front, filled, rfl, fun other follows => ?_⟩
    obtain ⟨first, front, rfl⟩ := List.exists_cons_of_ne_nil filled
    unfold readSigned
    split
    next same => exact (noMinus _ (by rw [← (List.cons.inj same).1]; rfl)).elim
    next same => exact (noPlus _ (by rw [← (List.cons.inj same).1]; rfl)).elim
    next => exact stays other follows

theorem steady_readYear : Steady readYear :=
  steady_readSigned.skipBlanks

/-- Everything up to the minutes. -/
def readMinute (chars : List Char) : Option ((Int × Nat × Nat × Nat × Nat) × List Char) := do
  let (year, chars) ← readYear chars
  let (month, chars) ← readField (← expect '-' chars)
  let (day, chars) ← readField (← expect '-' chars)
  let (hour, chars) ← readField chars
  let chars ← expect ':' chars
  (readField chars).map fun (minute, chars) => ((year, month, day, hour, minute), chars)

theorem steady_readMinute : Steady readMinute :=
  steady_readYear.bind fun year =>
    .expect (steady_readField.bind fun month =>
      .expect (steady_readField.bind fun day =>
        steady_readField.bind fun hour =>
          .expect (steady_readField.map fun minute => (year, month, day, hour, minute))))

theorem readPlain_eq : DateTime.readPlain chars = (do
    let ((year, month, day, hour, minute), chars) ← readMinute chars
    let (second, chars) ← readField (← expect ':' chars)
    if chars.isEmpty then DateTime.ofFields? year month day hour minute second 0 else none) := by
  simp only [DateTime.readPlain, readMinute, bind, Option.bind_assoc, Option.bind_map,
    Function.comp_def]

theorem readPlain_skipBlanks :
    DateTime.readPlain (skipBlanks chars) = DateTime.readPlain chars := by
  have year : readYear (skipBlanks chars) = readYear chars :=
    congrArg readSigned (skipBlanks_eq_self isBlank_of_head?_skipBlanks)
  rw [DateTime.readPlain, DateTime.readPlain, year]

end Sharding.Calendar
