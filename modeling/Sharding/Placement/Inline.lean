import Sharding.Placement.Basic
import Sharding.Properties
import Sharding.Template.Basic
import Sharding.Text.Items

/-!
# Placements by template

Placements that name the place of a row by a template, evaluated with the row's sharding values.
`INLINE` takes the value of one column, `COMPLEX_INLINE` one value for each of several columns and
`HINT_INLINE` values from outside the statement.
-/

set_option autoImplicit false

namespace Sharding

def Value.toScalar : Value → Template.Scalar
  | .int n => .int n
  | other => .text other.shown

def expressionKey : String := "algorithm-expression"

def readTemplate (type source : String) : Except Error Template :=
  match Template.parse source with
  | .ok template => .ok template
  | .error fault => .error (.algorithmInit type (.template source fault))

/-- The name that a template gives with the bindings, for a placement of a type. -/
def Template.target (template : Template) (type : String) (bindings : Template.Bindings) :
    Except Error String :=
  match template.evaluate bindings with
  | .ok name => .ok name
  | .error fault => .error (.selection type (.template template.source fault))

/-! ## One column -/

structure Inline where
  template : Template
  deriving Repr

namespace Inline

def type : String := "INLINE"

/-- The most integers of a range that are tried one by one. Longer ranges select every
candidate. -/
def maxSpan : Nat := 65536

def ofProperties? (properties : Properties) : Except Error Inline := do
  let source ← properties.require type expressionKey
  return { template := ← readTemplate type source }

/-- The value under the name of the column, in any spelling, and under `value`. -/
def bindings (column : String) (value : Value) : Template.Bindings := fun name =>
  if Name.Same name column ∨ name = "value" then some value.toScalar else none

def target (inline : Inline) (column : String) (value : Value) : Except Error String :=
  inline.template.target type (bindings column value)

def selectEqual (inline : Inline) (candidates : List String) (column : String) (value : Value) :
    Except Error (Option String) := do
  return findCandidate? candidates (← inline.target column value)

/-- The keys among `keys` that `count` integers from `n` on lead to, found so far or now. The
search ends early when every key has been found. -/
def collect (inline : Inline) (column : String) (keys : List String) :
    Nat → Int → List String → Except Error (List String)
  | 0, _, found => .ok found
  | count + 1, n, found => do
    let key := Name.fold (← inline.target column (.int (Int64.ofInt n)))
    let found := if keys.contains key && !found.contains key then key :: found else found
    if found.length = keys.length then return found
    else collect inline column keys count (n + 1) found

def selectWithin (inline : Inline) (candidates : List String) (column : String)
    (range : ValueRange) : Except Error (List String) :=
  match range.integerBounds? with
  | none => .error (.selection type (.notIntegerRange range))
  | some (some lower, some upper) =>
    if upper < lower then .ok []
    else if maxSpan ≤ (Word.nearestSub upper lower).toInt then .ok candidates
    else do
      let keys := candidates.map Name.fold
      let distance := (upper.toInt - lower.toInt).toNat
      let found ← inline.collect column keys (distance + 1) lower.toInt []
      return candidates.filter fun candidate => found.contains (Name.fold candidate)
  | some _ => .ok candidates

def placement (inline : Inline) : StandardPlacement where
  type := type
  selectEqual := inline.selectEqual
  selectWithin := inline.selectWithin

end Inline

/-! ## Several columns -/

/-- A placement by a template over several sharding columns. -/
structure ComplexInline where
  /-- The sharding columns in lower case. -/
  columns : List String
  template : Template
  deriving Repr

namespace ComplexInline

def type : String := "COMPLEX_INLINE"

def columnsKey : String := "sharding-columns"

def maxCombinations : Nat := 65536

def ofProperties? (properties : Properties) : Except Error ComplexInline := do
  let columns := (Text.items (← properties.require type columnsKey)).map Name.fold
  let source ← properties.require type expressionKey
  return { columns, template := ← readTemplate type source }

/-- The values that a column's predicate allows one by one. -/
def columnValues (columns : Nat) (column : String) :
    Option Predicate → Except Error (List Value)
  | some (.equal value) => .ok [value]
  | some (.among values) => .ok values
  | some (.within _) => .error (.selection type (.rangeOn column))
  | none => .error (.selection type (.noValue columns column))

/-- Every combination so far with every value of the next column, as long as they are not too
many. -/
def extend (complex : ComplexInline) (predicates : NameMap Predicate)
    (combinations : List (List Value)) (column : String) : Except Error (List (List Value)) := do
  let values ← columnValues complex.columns.length column (predicates.get? column)
  if maxCombinations < combinations.length * values.length then
    .error (.selection type .manyCombinations)
  else return combinations.flatMap fun before => values.map fun value => before ++ [value]

/-- Every combination of one value per column, the first column varying slowest. -/
def combinations (complex : ComplexInline) (predicates : NameMap Predicate) :
    Except Error (List (List Value)) :=
  complex.columns.foldlM (complex.extend predicates) [[]]

/-- Each value under the name of its column, in any spelling. -/
def bindings (columns : List String) (combination : List Value) : Template.Bindings := fun name =>
  ((columns.zip combination).find? fun entry => Name.Same entry.1 name).map (·.2.toScalar)

def target (complex : ComplexInline) (combination : List Value) : Except Error String :=
  complex.template.target type (bindings complex.columns combination)

def select (complex : ComplexInline) (candidates : List String) (predicates : NameMap Predicate) :
    Except Error (List String) := do
  let targets ← (← complex.combinations predicates).mapM complex.target
  return retain candidates targets

def placement (complex : ComplexInline) : ComplexPlacement where
  type := type
  select := complex.select

end ComplexInline

/-! ## Values from outside -/

structure HintInline where
  template : Template
  deriving Repr

namespace HintInline

def type : String := "HINT_INLINE"

/-- The template of a placement that sets none: the value itself. -/
def defaultSource : String := "$\x7bvalue\x7d"

def ofProperties? (properties : Properties) : Except Error HintInline := do
  let source := match (properties.get? expressionKey).map Text.trim with
    | some "" => defaultSource
    | some source => source
    | none => defaultSource
  return { template := ← readTemplate type source }

def bindings (value : Value) : Template.Bindings := fun name =>
  if name = "value" then some value.toScalar else none

def target (hint : HintInline) (value : Value) : Except Error String :=
  hint.template.target type (bindings value)

def select (hint : HintInline) (candidates : List String) (values : List Value) :
    Except Error (List String) := do
  return retain candidates (← values.mapM hint.target)

def placement (hint : HintInline) : HintPlacement where
  type := type
  select := hint.select

end HintInline

end Sharding
