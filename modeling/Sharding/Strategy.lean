import Sharding.Placement.Basic
import Sharding.RuleFile.Basic
import Sharding.Text.Items

/-!
# Strategies

How one dimension of a table, its data sources or its actual tables, is sharded: the sharding
columns and the placement that takes their values. Columns are held in lower case.
-/

set_option autoImplicit false

namespace Sharding

inductive Strategy where
  /-- By the value of one column. -/
  | standard (column algorithm : String) (placement : StandardPlacement)
  /-- By the values of several columns. -/
  | complex (columns : List String) (algorithm : String) (placement : ComplexPlacement)
  /-- By hinted values alone. -/
  | hint (algorithm : String) (placement : HintPlacement)
  /-- Not at all: every candidate may hold any row. -/
  | unsharded

namespace Strategy

def isUnsharded : Strategy → Bool
  | .unsharded => true
  | _ => false

/-- The columns whose values the strategy takes from conditions. -/
def columns : Strategy → List String
  | .standard column _ _ => [column]
  | .complex columns _ _ => columns
  | .hint _ _ => []
  | .unsharded => []

def algorithm? : Strategy → Option String
  | .standard _ algorithm _ => some algorithm
  | .complex _ algorithm _ => some algorithm
  | .hint algorithm _ => some algorithm
  | .unsharded => none

def standard? : Strategy → Option StandardPlacement
  | .standard _ _ placement => some placement
  | _ => none

def shown : Strategy → String
  | .standard column algorithm _ => "standard(" ++ column ++ ", " ++ algorithm ++ ")"
  | .complex columns algorithm _ =>
    "complex(" ++ ",".intercalate columns ++ ", " ++ algorithm ++ ")"
  | .hint algorithm _ => "hint(" ++ algorithm ++ ")"
  | .unsharded => "none"

def find (algorithms : NameMap Placement) (name : String) : Except RuleFault Placement :=
  match algorithms.get? name with
  | some placement => .ok placement
  | none => .error (.unknownAlgorithm name)

/-- The fault of a placement that lacks the capability a strategy needs. -/
def mismatched (needed : Capability) (name : String) (placement : Placement) : RuleFault :=
  .capability needed name placement.capability placement.type

/-- A strategy by one column, its own or else the default column. -/
def ofStandard (algorithms : NameMap Placement) (defaultColumn : Option String)
    (entry : StandardEntry) : Except RuleFault Strategy :=
  match entry.column <|> defaultColumn with
  | none => .error (.noColumn entry.algorithm)
  | some column => do
    match ← find algorithms entry.algorithm with
    | Placement.standard placement =>
      return .standard (Name.fold (Text.trim column)) entry.algorithm placement
    | other => .error (mismatched .standard entry.algorithm other)

def ofComplex (algorithms : NameMap Placement) (entry : ComplexEntry) :
    Except RuleFault Strategy := do
  match ← find algorithms entry.algorithm with
  | Placement.complex placement =>
    return .complex ((Text.items entry.columns).map Name.fold) entry.algorithm placement
  | other => .error (mismatched .complex entry.algorithm other)

def ofHint (algorithms : NameMap Placement) (entry : HintEntry) : Except RuleFault Strategy := do
  match ← find algorithms entry.algorithm with
  | Placement.hint placement => return .hint entry.algorithm placement
  | other => .error (mismatched .hint entry.algorithm other)

/-- The strategy that an entry describes, of the first kind that is set. -/
def ofEntry (algorithms : NameMap Placement) (defaultColumn : Option String)
    (entry : StrategyEntry) : Except RuleFault Strategy :=
  match entry.standard, entry.complex, entry.hint with
  | some own, _, _ => ofStandard algorithms defaultColumn own
  | none, some own, _ => ofComplex algorithms own
  | none, none, some own => ofHint algorithms own
  | none, none, none => .ok .unsharded

end Strategy

end Sharding
