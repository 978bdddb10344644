import Sharding.Catalog
import Sharding.DataNode.Pattern
import Sharding.Rule.Basic
import Sharding.RuleFile.Load

/-!
# Building rules

A rule is built from a rule file with a catalog of algorithms and a way to expand patterns of data
nodes. It is built as a whole or not at all; of several faults the first in the order of the
steps is reported.
-/

set_option autoImplicit false

namespace Sharding.Rule

def step {α : Type} : Except RuleFault α → Except Error α
  | .ok value => .ok value
  | .error fault => .error (.config (.rule fault))

def setUp {α : Type} (entries : NameMap AlgorithmEntry)
    (create : String → Properties → Except Error α) : Except Error (NameMap α) := do
  let algorithms ← entries.entries.mapM fun (name, entry) => do
    return (name, ← create entry.type entry.properties)
  return .ofList algorithms

/-- The strategy that an entry describes, none without an entry. -/
def strategy (algorithms : NameMap Placement) (file : RuleFile) :
    Option StrategyEntry → Except Error Strategy
  | none => .ok .unsharded
  | some entry => step (Strategy.ofEntry algorithms file.defaultColumn entry)

/-- The nodes of a table: those of its pattern, or else the table on every data source. -/
def tableNodes (expand : String → Except Error (List DataNode)) (file : RuleFile) (name : String)
    (entry : TableEntry) : Except Error (List DataNode) :=
  match entry.nodes with
  | some pattern => expand pattern
  | none => .ok (file.dataSources.map fun dataSource => ⟨dataSource, name⟩)

def tableRule (expand : String → Except Error (List DataNode)) (algorithms : NameMap Placement)
    (file : RuleFile) (name : String) (entry : TableEntry) : Except Error TableRule := do
  let nodes ← tableNodes expand file name entry
  step (TableRule.checkNodes name nodes file.dataSources)
  let databaseStrategy ←
    strategy algorithms file (entry.databaseStrategy <|> file.defaultDatabaseStrategy)
  let tableStrategy ← strategy algorithms file (entry.tableStrategy <|> file.defaultTableStrategy)
  return { logicTable := name, nodes, databaseStrategy, tableStrategy
           key := entry.key <|> file.defaultKey
           audit := entry.audit <|> file.defaultAudit }

def tableCount (name : String) (strategy : Strategy) : Except RuleFault Nat :=
  match strategy.standard?.bind (·.tableCount) with
  | some count => .ok count
  | none => .error (.noLayout name (strategy.algorithm?.getD "none"))

def autoTableRule (algorithms : NameMap Placement) (file : RuleFile) (name : String)
    (entry : AutoTableEntry) : Except Error TableRule := do
  let dataSources := (entry.dataSources.map Text.items).getD file.dataSources
  let tableStrategy ← strategy algorithms file (some entry.strategy)
  let count ← step (tableCount name tableStrategy)
  let nodes := TableRule.layout name dataSources count
  step (TableRule.checkNodes name nodes file.dataSources)
  return { logicTable := name, nodes, tableStrategy
           key := entry.key <|> file.defaultKey
           audit := entry.audit <|> file.defaultAudit
           auto := true }

/-- The rules of all tables, under their names in lower case. -/
def tableRules (expand : String → Except Error (List DataNode)) (algorithms : NameMap Placement)
    (file : RuleFile) : Except Error (NameMap TableRule) := do
  let tables ← file.tables.entries.mapM fun (name, entry) =>
    tableRule expand algorithms file name entry
  let autoTables ← file.autoTables.entries.mapM fun (name, entry) =>
    autoTableRule algorithms file name entry
  return .ofList ((tables ++ autoTables).map fun rule => (Name.fold rule.logicTable, rule))

def memberRule (tables : NameMap TableRule) (member : String) : Except RuleFault TableRule :=
  match tables.get? member with
  | some rule => .ok rule
  | none => .error (.unknownMember member)

/-- The tables of a group have the same shape, so that an index on one leads to every other. -/
def checkGroup (tables : NameMap TableRule) (group : List String) : Except RuleFault Unit := do
  match ← group.mapM (memberRule tables) with
  | [] => return ()
  | first :: rest =>
    match rest.find? fun other => other.shape ≠ first.shape with
    | some other => .error (.layouts first.logicTable other.logicTable)
    | none => return ()

def groupsOf (file : RuleFile) : List (List String) :=
  file.bindingTables.map fun group => (Text.items group).map Name.fold

def build (catalog : Catalog) (expand : String → Except Error (List DataNode)) (file : RuleFile) :
    Except Error Rule := do
  match file.check with
  | .error fault => .error (.config (.ruleFile fault))
  | .ok () =>
    let algorithms ← setUp file.algorithms catalog.placement
    let keyGenerators ← setUp file.keyGenerators catalog.keyGenerator
    let auditors ← setUp file.auditors catalog.auditor
    let tables ← tableRules expand algorithms file
    let groups := groupsOf file
    step (groups.forM (checkGroup tables))
    return { dataSources := file.dataSources
             defaultDataSource := file.resolvedDefault
             tables, groups
             broadcast := .ofList (file.broadcastTables.map fun name => (Name.fold name, name))
             algorithms, keyGenerators, auditors
             fingerprint := file.fingerprint }

/-- The rule of a rule file, with the algorithms of this library and patterns of templates. -/
def ofFile (file : RuleFile) : Except Error Rule :=
  build .builtin DataNode.expand file

end Sharding.Rule
