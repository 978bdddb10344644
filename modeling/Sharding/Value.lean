import Sharding.Calendar.Text
import Sharding.Document
import Sharding.Word.Decimal

/-!
# Sharding values

The values that statements and hints give for sharding columns. Whoever shards reads them as
integers, as datetimes or as plain text; a text counts as an integer or a datetime if it reads as
one.
-/

set_option autoImplicit false

namespace Sharding

open Calendar (DateTime)

inductive Value where
  | int (value : Int64)
  | datetime (moment : DateTime)
  | text (content : String)
  deriving DecidableEq, Repr

namespace Value

/-- A value written by hand: an integer if it reads as one, else the text as it stands. -/
def ofLiteral (literal : String) : Value :=
  match Word.parse? (Text.trim literal) with
  | some n => .int n
  | none => .text literal

def toInt? : Value → Option Int64
  | .int n => some n
  | .text content => Word.parse? (Text.trim content)
  | .datetime _ => none

def toDateTime? : Value → Option DateTime
  | .datetime moment => some moment
  | .text content => DateTime.ofText? content
  | .int _ => none

def shown : Value → String
  | .int n => Word.text n
  | .datetime moment => moment.plainText
  | .text content => content

/-- The value in a document: datetimes are texts in ISO form. -/
def toDocument : Value → Document
  | .int n => .ofWord n
  | .datetime moment => .text moment.isoText
  | .text content => .text content

/-- The value a document stands for: a text in ISO form is a datetime. -/
def ofDocument? : Document → Option Value
  | .number (.whole n) => (Word.ofInt? n).map .int
  | .text content =>
    match DateTime.ofIso? content with
    | some moment => some (.datetime moment)
    | none => some (.text content)
  | _ => none

end Value

/-! ## Ranges -/

inductive Bound where
  | included (value : Value)
  | excluded (value : Value)
  | unbounded
  deriving DecidableEq, Repr

def Bound.endpoint? : Bound → Option Value
  | .included value => some value
  | .excluded value => some value
  | .unbounded => none

structure ValueRange where
  lower : Bound
  upper : Bound
  deriving DecidableEq, Repr

namespace ValueRange

/-- Both ends included. -/
def closed (lower upper : Value) : ValueRange := ⟨.included lower, .included upper⟩

def atLeast (lower : Value) : ValueRange := ⟨.included lower, .unbounded⟩

def atMost (upper : Value) : ValueRange := ⟨.unbounded, .included upper⟩

def all : ValueRange := ⟨.unbounded, .unbounded⟩

/-- The least integer at or above a lower end, nothing if there is no such end. An end that is no
integer, or has none above it, makes the answer fail. -/
def lowerInt? : Bound → Option (Option Int64)
  | .included value => value.toInt?.map some
  | .excluded value => do return some (← Word.add? (← value.toInt?) 1)
  | .unbounded => some none

def upperInt? : Bound → Option (Option Int64)
  | .included value => value.toInt?.map some
  | .excluded value => do return some (← Word.sub? (← value.toInt?) 1)
  | .unbounded => some none

/-- The first and the last integer of the range, nothing at an open side. -/
def integerBounds? (range : ValueRange) : Option (Option Int64 × Option Int64) := do
  return (← lowerInt? range.lower, ← upperInt? range.upper)

/-- The range between brackets, round ones at excluded and open ends. -/
def shown (range : ValueRange) : String :=
  let lower := match range.lower with
    | .included value => "[" ++ value.shown
    | .excluded value => "(" ++ value.shown
    | .unbounded => "(-inf"
  let upper := match range.upper with
    | .included value => value.shown ++ "]"
    | .excluded value => value.shown ++ ")"
    | .unbounded => "+inf)"
  lower ++ ".." ++ upper

end ValueRange

end Sharding
