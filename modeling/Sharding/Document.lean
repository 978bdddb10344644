import Sharding.Number.Shortest

/-!
# Documents

The data that rule files and results consist of: scalars, lists and records. A number is either
whole or a decimal fraction; a fraction stands for the double it is read as.
-/

set_option autoImplicit false

namespace Sharding

open scoped Word

inductive Document.Number where
  /-- A whole number, written without point, exponent or negative zero. -/
  | whole (value : Int)
  /-- A fraction, with its sign apart since zero has two. -/
  | fraction (negative : Bool) (magnitude : Number.Decimal)
  deriving DecidableEq, Repr

inductive Document where
  | null
  | bool (value : Bool)
  | number (value : Document.Number)
  | text (value : String)
  | list (items : List Document)
  /-- Fields in the order written. Whether two of them may have one name is up to the reader. -/
  | record (fields : List (String × Document))
  deriving Repr

namespace Document

instance : Inhabited Document := ⟨.null⟩

def ofInt (value : Int) : Document := .number (.whole value)

def ofWord (value : Int64) : Document := .ofInt value.toInt

def ofNat (value : Nat) : Document := .ofInt value

def ofTexts (texts : List String) : Document := .list (texts.map .text)

def ofOption {α : Type} (encode : α → Document) : Option α → Document
  | none => .null
  | some value => encode value

/-- The last field with a name. -/
def field? (name : String) (fields : List (String × Document)) : Option Document :=
  fields.foldl (fun found field => if field.1 = name then some field.2 else found) none

namespace Number

def magnitude : Number → Sharding.Number.Binary64
  | .whole value => (Sharding.Number.Decimal.mk value.natAbs 0).toBinary64
  | .fraction _ magnitude => magnitude.toBinary64

def isNegative : Number → Bool
  | .whole value => value < 0
  | .fraction negative _ => negative

/-- The text with a minus before it if the number is negative. -/
def signed (number : Number) (text : String) : String :=
  if number.isNegative then "-" ++ text else text

/-- The number in positional notation with the fewest digits that read back. A number between two
shortest candidates goes up. Whole numbers that fit in a word keep all their digits. -/
def positional (number : Number) : String :=
  let rounded := number.signed (Sharding.Number.shortest .up number.magnitude).positional
  match number with
  | .whole value =>
    if -2 ^ (63 : Nat) ≤ value ∧ value < 2 ^ (63 : Nat) then toString value else rounded
  | .fraction _ _ => rounded

/-- The number as it stands in a compact document: whole numbers up to 64 bits by their digits,
others by the fewest digits that read back, a tie going to the even one. -/
def written (number : Number) : String :=
  let rounded := number.signed (Sharding.Number.shortest .even number.magnitude).scientific
  match number with
  | .whole value =>
    if -2 ^ (63 : Nat) ≤ value ∧ value < 2 ^ (64 : Nat) then toString value else rounded
  | .fraction _ _ => rounded

end Number

end Document

end Sharding
