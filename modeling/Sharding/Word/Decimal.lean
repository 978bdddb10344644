import Sharding.Word

/-!
# Decimal text of words

A word is written as an optional sign and one or more ASCII digits. Reading goes from left to
right and stops at the first fault, so a text that is both too long and ill-formed is refused for
whichever comes first.
-/

set_option autoImplicit false

namespace Sharding.Word

inductive Fault where
  /-- The text is empty. -/
  | empty
  /-- A character is no digit, or there is a sign and nothing else. -/
  | notDigit
  /-- The value is above the greatest word. -/
  | tooLarge
  /-- The value is below the least word. -/
  | tooSmall
  deriving DecidableEq, Repr

def Fault.message : Fault → String
  | .empty => "cannot parse integer from empty string"
  | .notDigit => "invalid digit found in string"
  | .tooLarge => "number too large to fit in target type"
  | .tooSmall => "number too small to fit in target type"

def digitValue (c : Char) : Nat :=
  c.toNat - '0'.toNat

/-- A value with one more digit, away from zero in the direction of the sign. -/
def withDigit (negative : Bool) (value : Int) (c : Char) : Int :=
  if negative then 10 * value - digitValue c else 10 * value + digitValue c

/-- The fault of leaving the words on the side of the sign. -/
def Fault.outside (negative : Bool) : Fault :=
  if negative then .tooSmall else .tooLarge

def readDigits (negative : Bool) : Int → List Char → Except Fault Int
  | value, [] => .ok value
  | value, c :: rest =>
    if !c.isDigit then .error .notDigit
    else if Fits (withDigit negative value c) then
      readDigits negative (withDigit negative value c) rest
    else .error (.outside negative)

def readInt : List Char → Except Fault Int
  | [] => .error .empty
  | ['+'] => .error .notDigit
  | ['-'] => .error .notDigit
  | '+' :: digits => readDigits false 0 digits
  | '-' :: digits => readDigits true 0 digits
  | digits => readDigits false 0 digits

def parse (text : String) : Except Fault Int64 :=
  (readInt text.toList).map Int64.ofInt

def parse? (text : String) : Option Int64 :=
  (parse text).toOption

theorem fits_of_readDigits {negative : Bool} {value result : Int} {digits : List Char}
    (fits : Fits value) (h : readDigits negative value digits = .ok result) : Fits result := by
  induction digits generalizing value with
  | nil => cases h; exact fits
  | cons c rest ih =>
    rw [readDigits] at h
    split at h
    · cases h
    · split at h
      next next_fits => exact ih next_fits h
      next => cases h

theorem fits_of_readInt {result : Int} {chars : List Char} (h : readInt chars = .ok result) :
    Fits result := by
  have zero : Fits 0 := by decide
  unfold readInt at h
  split at h
  · cases h
  · cases h
  · cases h
  · exact fits_of_readDigits zero h
  · exact fits_of_readDigits zero h
  · exact fits_of_readDigits zero h

end Sharding.Word
