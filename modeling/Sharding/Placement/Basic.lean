import Sharding.Error.Basic
import Sharding.NameMap
import Sharding.Statement

/-!
# Placements

A placement knows on which of its candidates rows lie. The candidates are the names of data
sources or of actual tables. There are three kinds of placements, by what they are asked with:
the value of one column, the values of several columns, or values from outside the statement.
-/

set_option autoImplicit false

namespace Sharding

structure StandardPlacement where
  /-- The name of its type. -/
  type : String
  /-- The candidate that holds the rows with a value, if there is one. -/
  selectEqual (candidates : List String) (column : String) (value : Value) :
    Except Error (Option String)
  /-- The candidates that may hold rows with a value in a range, in candidate order. -/
  selectWithin (candidates : List String) (column : String) (range : ValueRange) :
    Except Error (List String)
  /-- The number of tables that it lays out, if it lays out tables. -/
  tableCount : Option Nat := none

/-- A placement by the values of several columns. Predicates are found under column names in
lower case. -/
structure ComplexPlacement where
  type : String
  select (candidates : List String) (predicates : NameMap Predicate) : Except Error (List String)

structure HintPlacement where
  type : String
  select (candidates : List String) (values : List Value) : Except Error (List String)

inductive Placement where
  | standard (placement : StandardPlacement)
  | complex (placement : ComplexPlacement)
  | hint (placement : HintPlacement)

namespace Placement

def type : Placement → String
  | .standard placement => placement.type
  | .complex placement => placement.type
  | .hint placement => placement.type

def capability : Placement → Capability
  | .standard _ => .standard
  | .complex _ => .complex
  | .hint _ => .hint

/-- The number of tables that the placement lays out, if it lays out tables. -/
def tableCount : Placement → Option Nat
  | .standard placement => placement.tableCount
  | .complex _ => none
  | .hint _ => none

end Placement

/-- The candidates that are spelled like one of the selected names, in candidate order. -/
def retain (candidates selected : List String) : List String :=
  let keys := selected.map Name.fold
  candidates.filter fun candidate => keys.contains (Name.fold candidate)

theorem mem_retain_iff {candidates selected : List String} {name : String} :
    name ∈ retain candidates selected ↔
      name ∈ candidates ∧ ∃ chosen ∈ selected, Name.Same chosen name := by
  simp only [retain, List.mem_filter, List.contains_iff_mem, List.mem_map]
  rfl

def findCandidate? (candidates : List String) (name : String) : Option String :=
  let key := Name.fold name
  candidates.find? fun candidate => Name.fold candidate = key

end Sharding
