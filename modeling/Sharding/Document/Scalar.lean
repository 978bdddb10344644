import Sharding.Number.Decimal

/-!
# Bare scalars

Which bare texts a reader of block documents takes for something other than a text: nothing, a
truth value, a whole number or a number in double precision.
-/

set_option autoImplicit false

namespace Sharding.Document.Scalar

open scoped Word

def digit? (c : Char) : Option Nat :=
  if '0' ≤ c ∧ c ≤ '9' then some (c.toNat - '0'.toNat)
  else if 'a' ≤ c ∧ c ≤ 'f' then some (c.toNat - 'a'.toNat + 10)
  else if 'A' ≤ c ∧ c ≤ 'F' then some (c.toNat - 'A'.toNat + 10)
  else none

def withDigit? (base value : Nat) (c : Char) : Option Nat := do
  let digit ← digit? c
  if digit < base then some (base * value + digit) else none

def inBase? (base : Nat) (digits : List Char) : Option Nat :=
  if digits.isEmpty then none else digits.foldlM (withDigit? base) 0

def marked? : List Char → Option Nat
  | '0' :: 'x' :: digits => inBase? 16 digits
  | '0' :: 'o' :: digits => inBase? 8 digits
  | '0' :: 'b' :: digits => inBase? 2 digits
  | _ => none

def signed : List Char → Bool × List Char
  | '-' :: rest => (true, rest)
  | '+' :: rest => (false, rest)
  | chars => (false, chars)

/-- A whole number of at most 128 bits with the mark of its base. -/
def isMarked (chars : List Char) : Bool :=
  let (negative, size) := signed chars
  (marked? size).any fun (value : Nat) =>
    value < 2 ^ (128 : Nat) && (!negative || value ≤ 2 ^ (127 : Nat))

def isPadded (chars : List Char) : Bool :=
  match (signed chars).2 with
  | '0' :: rest => !rest.isEmpty && rest.all Char.isDigit
  | _ => false

def exponent? : List Char → Option Int
  | [] => some 0
  | c :: rest =>
    if c = 'e' ∨ c = 'E' then
      let (negative, size) := signed rest
      if !size.isEmpty && size.all Char.isDigit then
        let value : Int := Nat.ofDigitChars 10 size 0
        some (if negative then -value else value)
      else none
    else none

/-- The decimal that the characters after a sign are: digits with a point anywhere around or
between them, then an exponent. -/
def decimal? (chars : List Char) : Option Number.Decimal :=
  let whole := chars.takeWhile Char.isDigit
  let rest := chars.dropWhile Char.isDigit
  let (fraction, rest) := match rest with
    | '.' :: rest => (rest.takeWhile Char.isDigit, rest.dropWhile Char.isDigit)
    | rest => ([], rest)
  if whole.isEmpty && fraction.isEmpty then none
  else (exponent? rest).map fun (exponent : Int) =>
    ⟨Nat.ofDigitChars 10 (whole ++ fraction) 0, exponent - fraction.length⟩

/-- The decimal is read as a double and not as infinity: it is below the midpoint between the
greatest double and the next power of two. -/
def isFinite (d : Number.Decimal) : Bool :=
  let places := (Nat.repr d.digits).length + d.exponent
  if d.digits = 0 ∨ places < 0 then true
  else if 310 < places then false
  else
    d.digits * 10 ^ d.exponent.toNat <
      (2 ^ (1024 : Nat) - 2 ^ (970 : Nat)) * 10 ^ (-d.exponent).toNat

/-- A decimal number, or infinity, or the mark of what is no number. -/
def isFloat (text : String) : Bool :=
  let (_, size) := signed text.toList
  [".inf", ".Inf", ".INF"].contains (String.ofList size) ||
    [".nan", ".NaN", ".NAN"].contains text || (decimal? size).any isFinite

/-- The text, standing bare, is taken for something else than a text. -/
def isMistaken (text : String) : Bool :=
  ["", "~", "null", "Null", "NULL", "true", "True", "TRUE", "false", "False", "FALSE"].contains
      text ||
    isMarked text.toList || isPadded text.toList || isFloat text

end Sharding.Document.Scalar
