import Sharding.Word

/-!
# Numbered names

Tables that are laid out by number end with their number. A table is found again by the digits at
the end of its name, read as a number.
-/

set_option autoImplicit false

namespace Sharding.Suffix

open scoped Word

def digits (chars : List Char) : List Char :=
  (chars.reverse.takeWhile Char.isDigit).reverse

def greatest : Nat := 2 ^ (64 : Nat) - 1

/-- The number at the end of a name, if the name ends with digits that are not too many. -/
def number? (name : String) : Option Nat :=
  let digits := digits name.toList
  if digits.isEmpty then none
  else
    let number := Nat.ofDigitChars 10 digits 0
    if number ≤ greatest then some number else none

def find? (candidates : List String) (number : Nat) : Option String :=
  candidates.find? fun candidate => number? candidate = some number

/-- The first candidate with each number from `first` to `last`, in the order of the numbers. -/
def findAll (candidates : List String) (first last : Nat) : List String :=
  let numbered := candidates.map fun candidate => (number? candidate, candidate)
  (List.range' first (last + 1 - first)).filterMap fun (number : Nat) =>
    (numbered.find? fun entry => entry.1 = some number).map (·.2)

end Sharding.Suffix
