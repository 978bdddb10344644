import Sharding.Document

/-!
# Reading documents

Documents are written in JSON. A reading step answers with what it read and the characters left,
fewer than it was given, so reading ends on every text. A text with anything after its document
is no document.
-/

set_option autoImplicit false

namespace Sharding.Document

/-- A value read from the front of `chars` and the characters left. -/
abbrev Step (α : Type) (chars : List Char) : Type :=
  Option { result : α × List Char // result.2.length < chars.length }

def isGap (c : Char) : Bool :=
  c = ' ' || c = '\t' || c = '\n' || c = '\r'

def skipGap (chars : List Char) : List Char :=
  chars.dropWhile isGap

theorem length_dropWhile_le (p : Char → Bool) (chars : List Char) :
    (chars.dropWhile p).length ≤ chars.length :=
  (List.dropWhile_suffix p).length_le

theorem length_skipGap_le (chars : List Char) : (skipGap chars).length ≤ chars.length :=
  length_dropWhile_le _ _

def hexValue? (c : Char) : Option Nat :=
  if c.isDigit then some (c.toNat - '0'.toNat)
  else if 'a' ≤ c && c ≤ 'f' then some (c.toNat - 'a'.toNat + 10)
  else if 'A' ≤ c && c ≤ 'F' then some (c.toNat - 'A'.toNat + 10)
  else none

def hex4? (a b c d : Char) : Option Nat := do
  return ((← hexValue? a) * 16 + (← hexValue? b)) * 256 + (← hexValue? c) * 16 + (← hexValue? d)

/-- A character given by the code after its escape sign, or by two such codes that make up a
surrogate pair. A lone surrogate is no character. -/
def readCode (chars : List Char) : Step Char chars :=
  match chars with
  | a :: b :: c :: d :: rest =>
    match hex4? a b c d with
    | none => none
    | some high =>
      if 0xD800 ≤ high && high < 0xDC00 then
        match rest with
        | '\\' :: 'u' :: e :: f :: g :: h :: rest =>
          match hex4? e f g h with
          | none => none
          | some low =>
            if 0xDC00 ≤ low && low < 0xE000 then
              some ⟨(Char.ofNat (0x10000 + (high - 0xD800) * 0x400 + (low - 0xDC00)), rest), by
                simp only [List.length_cons]; omega⟩
            else none
        | _ => none
      else if 0xDC00 ≤ high && high < 0xE000 then none
      else some ⟨(Char.ofNat high, rest), by simp only [List.length_cons]; omega⟩
  | _ => none

/-- The character that stands for what follows an escape sign. -/
def readEscape (chars : List Char) : Step Char chars :=
  match chars with
  | '"' :: rest => some ⟨('"', rest), by simp⟩
  | '\\' :: rest => some ⟨('\\', rest), by simp⟩
  | '/' :: rest => some ⟨('/', rest), by simp⟩
  | 'b' :: rest => some ⟨('\x08', rest), by simp⟩
  | 'f' :: rest => some ⟨('\x0c', rest), by simp⟩
  | 'n' :: rest => some ⟨('\n', rest), by simp⟩
  | 'r' :: rest => some ⟨('\r', rest), by simp⟩
  | 't' :: rest => some ⟨('\t', rest), by simp⟩
  | 'u' :: rest =>
    match readCode rest with
    | none => none
    | some ⟨(c, rest'), shorter⟩ => some ⟨(c, rest'), by simp at shorter ⊢; omega⟩
  | _ => none

/-- The rest of a quoted text, whose characters so far are given in reverse. -/
def readText (before chars : List Char) : Step String chars :=
  match chars with
  | [] => none
  | '"' :: rest => some ⟨(String.ofList before.reverse, rest), by simp⟩
  | '\\' :: rest =>
    match readEscape rest with
    | none => none
    | some ⟨(c, rest'), shorter⟩ =>
      match readText (c :: before) rest' with
      | none => none
      | some ⟨result, shorter'⟩ => some ⟨result, by simp at shorter ⊢; omega⟩
  | c :: rest =>
    if c.toNat < 0x20 then none
    else
      match readText (c :: before) rest with
      | none => none
      | some ⟨result, shorter⟩ => some ⟨result, by simp; omega⟩
termination_by chars.length
decreasing_by all_goals simp_all <;> omega

def digits (chars : List Char) : List Char :=
  chars.takeWhile Char.isDigit

def afterDigits (chars : List Char) : List Char :=
  chars.dropWhile Char.isDigit

theorem length_afterDigits_le (chars : List Char) : (afterDigits chars).length ≤ chars.length :=
  length_dropWhile_le _ _

/-- The digits after a point, if there is one. A point without digits is a fault. -/
def readFraction (chars : List Char) :
    Option { result : List Char × List Char // result.2.length ≤ chars.length } :=
  match chars with
  | '.' :: rest =>
    if (digits rest).isEmpty then none
    else some ⟨(digits rest, afterDigits rest), Nat.le_succ_of_le (length_afterDigits_le rest)⟩
  | other => some ⟨([], other), Nat.le_refl _⟩

/-- The sign in front of an exponent, if there is one, and what follows it. -/
def exponentSign : List Char → Bool × List Char
  | '-' :: rest => (true, rest)
  | '+' :: rest => (false, rest)
  | rest => (false, rest)

theorem length_exponentSign_le (chars : List Char) :
    (exponentSign chars).2.length ≤ chars.length := by
  unfold exponentSign
  split <;> simp

/-- The exponent after its letter, if there is one. A letter without digits is a fault. -/
def readExponent (chars : List Char) :
    Option { result : Option Int × List Char // result.2.length ≤ chars.length } :=
  match chars with
  | [] => some ⟨(none, []), Nat.le_refl _⟩
  | c :: rest =>
    if c = 'e' || c = 'E' then
      let signed := exponentSign rest
      if (digits signed.2).isEmpty then none
      else
        let size : Int := Nat.ofDigitChars 10 (digits signed.2) 0
        some ⟨(some (if signed.1 then -size else size), afterDigits signed.2),
          Nat.le_succ_of_le
            (Nat.le_trans (length_afterDigits_le signed.2) (length_exponentSign_le rest))⟩
    else some ⟨(none, c :: rest), Nat.le_refl _⟩

/-- The whole digits of a number: a single zero, or digits that do not start with one. -/
def readWhole (chars : List Char) : Step (List Char) chars :=
  match chars with
  | '0' :: rest => some ⟨(['0'], rest), by simp⟩
  | c :: rest =>
    if c.isDigit then
      some ⟨(c :: digits rest, afterDigits rest), by
        have := length_afterDigits_le rest; simp; omega⟩
    else none
  | [] => none

def readMagnitude (negative : Bool) (chars : List Char) : Step Number chars :=
  match readWhole chars with
  | none => none
  | some ⟨(whole, rest), shorter⟩ =>
    match readFraction rest with
    | none => none
    | some ⟨(fraction, rest'), fewer⟩ =>
      match readExponent rest' with
      | none => none
      | some ⟨(exponent, rest''), fewer'⟩ =>
        let size := Nat.ofDigitChars 10 (whole ++ fraction) 0
        let number :=
          if fraction.isEmpty && exponent.isNone && !(negative && size = 0) then
            .whole (if negative then -size else size)
          else .fraction negative ⟨size, exponent.getD 0 - fraction.length⟩
        some ⟨(number, rest''), by simp at *; omega⟩

def readNumber (chars : List Char) : Step Number chars :=
  match chars with
  | '-' :: rest =>
    match readMagnitude true rest with
    | none => none
    | some ⟨result, shorter⟩ => some ⟨result, by simp; omega⟩
  | other => readMagnitude false other

mutual

def readValue (chars : List Char) : Step Document chars :=
  match chars with
  | '"' :: rest =>
    match readText [] rest with
    | none => none
    | some ⟨(content, rest'), shorter⟩ => some ⟨(.text content, rest'), by simp at *; omega⟩
  | '[' :: rest =>
    match gap : skipGap rest with
    | ']' :: rest' => some ⟨(.list [], rest'), by
        have := length_skipGap_le rest; simp [gap] at *; omega⟩
    | start =>
      match readItems start with
      | none => none
      | some ⟨(items, rest'), shorter⟩ => some ⟨(.list items, rest'), by
          have := length_skipGap_le rest; simp [gap] at *; omega⟩
  | '{' :: rest =>
    match gap : skipGap rest with
    | '}' :: rest' => some ⟨(.record [], rest'), by
        have := length_skipGap_le rest; simp [gap] at *; omega⟩
    | start =>
      match readFields start with
      | none => none
      | some ⟨(fields, rest'), shorter⟩ => some ⟨(.record fields, rest'), by
          have := length_skipGap_le rest; simp [gap] at *; omega⟩
  | 'n' :: 'u' :: 'l' :: 'l' :: rest => some ⟨(.null, rest), by simp; omega⟩
  | 't' :: 'r' :: 'u' :: 'e' :: rest => some ⟨(.bool true, rest), by simp; omega⟩
  | 'f' :: 'a' :: 'l' :: 's' :: 'e' :: rest => some ⟨(.bool false, rest), by simp; omega⟩
  | chars =>
    match readNumber chars with
    | none => none
    | some ⟨(value, rest), shorter⟩ => some ⟨(.number value, rest), shorter⟩
termination_by 3 * chars.length
decreasing_by
  all_goals
    have := length_skipGap_le rest
    simp [gap] at *
    omega

def readItems (chars : List Char) : Step (List Document) chars :=
  match readValue chars with
  | none => none
  | some ⟨(item, rest), shorter⟩ =>
    match gap : skipGap rest with
    | ']' :: rest' => some ⟨([item], rest'), by
        have := length_skipGap_le rest; simp [gap] at *; omega⟩
    | ',' :: rest' =>
      match readItems (skipGap rest') with
      | none => none
      | some ⟨(items, rest''), shorter'⟩ => some ⟨(item :: items, rest''), by
          have := length_skipGap_le rest; have := length_skipGap_le rest'
          simp [gap] at *; omega⟩
    | _ => none
termination_by 3 * chars.length + 1
decreasing_by
  · simp
  · have := length_skipGap_le rest; have := length_skipGap_le rest'; simp [gap] at *; omega

def readFields (chars : List Char) : Step (List (String × Document)) chars :=
  match chars with
  | '"' :: rest =>
    match readText [] rest with
    | none => none
    | some ⟨(name, rest₁), shorter₁⟩ =>
      match gap₁ : skipGap rest₁ with
      | ':' :: rest₂ =>
        match readValue (skipGap rest₂) with
        | none => none
        | some ⟨(value, rest₃), shorter₃⟩ =>
          match gap₃ : skipGap rest₃ with
          | '}' :: rest₄ => some ⟨([(name, value)], rest₄), by
              have := length_skipGap_le rest₁; have := length_skipGap_le rest₂
              have := length_skipGap_le rest₃; simp [gap₁, gap₃] at *; omega⟩
          | ',' :: rest₄ =>
            match readFields (skipGap rest₄) with
            | none => none
            | some ⟨(fields, rest₅), shorter₅⟩ => some ⟨((name, value) :: fields, rest₅), by
                have := length_skipGap_le rest₁; have := length_skipGap_le rest₂
                have := length_skipGap_le rest₃; have := length_skipGap_le rest₄
                simp [gap₁, gap₃] at *; omega⟩
          | _ => none
      | _ => none
  | _ => none
termination_by 3 * chars.length + 2
decreasing_by
  · have := length_skipGap_le rest₁; have := length_skipGap_le rest₂
    simp [gap₁] at *; omega
  · have := length_skipGap_le rest₁; have := length_skipGap_le rest₂
    have := length_skipGap_le rest₃; have := length_skipGap_le rest₄
    simp [gap₁, gap₃] at *; omega

end

/-- The document that a text consists of, gaps at both ends aside. -/
def read? (text : String) : Option Document :=
  match readValue (skipGap text.toList) with
  | none => none
  | some ⟨(document, rest), _⟩ => if (skipGap rest).isEmpty then some document else none

end Sharding.Document
