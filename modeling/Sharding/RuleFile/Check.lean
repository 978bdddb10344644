import Sharding.RuleFile.Basic
import Sharding.Text.Items
import Sharding.Text.Name

/-!
# Checking rule files

What a rule file must satisfy by itself: names are there and unambiguous, and every reference
leads to something declared. Whether algorithms accept their properties and patterns expand is
not checked here. Of several faults the first in the order of the checks is reported.
-/

set_option autoImplicit false

namespace Sharding.RuleFile

/-- Data source names are not blank, and none is among those seen or occurs twice. -/
def checkDataSources : List String → List String → Except RuleFileFault Unit
  | _, [] => .ok ()
  | seen, name :: rest =>
    if Text.isBlankText name then .error .blankDataSource
    else if name ∈ seen then .error (.repeatedDataSource name)
    else checkDataSources (name :: seen) rest

/-- Table names are not blank, and none has a key among those seen or the key of another. -/
def checkTableNames : List String → List String → Except RuleFileFault Unit
  | _, [] => .ok ()
  | seen, name :: rest =>
    if Text.isBlankText name then .error .blankTable
    else if Name.fold name ∈ seen then .error (.repeatedTable name)
    else checkTableNames (Name.fold name :: seen) rest

def ensure (condition : Bool) (fault : RuleFileFault) : Except RuleFileFault Unit :=
  if condition then .ok () else .error fault

/-- The column that a standard strategy shards by: its own, or else the default column. -/
def columnOf (file : RuleFile) (entry : StandardEntry) : Option String :=
  entry.column <|> file.defaultColumn

/-- A strategy sets at most one kind, has the columns of its kind and a declared algorithm. -/
def checkStrategy (file : RuleFile) (scope field : String) (entry : StrategyEntry) :
    Except RuleFileFault Unit := do
  ensure (entry.kindsSet ≤ 1) (.manyKinds scope field)
  if let some standard := entry.standard then
    ensure ((file.columnOf standard).any fun column => !Text.isBlankText column)
      (.noColumn scope field)
  if let some complex := entry.complex then
    ensure (!(Text.items complex.columns).isEmpty) (.noColumns scope field)
  if let some algorithm := entry.algorithm? then
    ensure (file.algorithms.contains algorithm) (.undeclaredAlgorithm scope field algorithm)

/-- Generated keys are for a column and come from a declared generator. -/
def checkKey (file : RuleFile) (scope : String) (entry : KeyEntry) : Except RuleFileFault Unit := do
  ensure (!Text.isBlankText entry.column) (.blankKeyColumn scope)
  ensure (file.keyGenerators.contains entry.generator)
    (.undeclaredKeyGenerator scope entry.generator)

def checkAudit (file : RuleFile) (scope : String) (entry : AuditEntry) :
    Except RuleFileFault Unit :=
  entry.auditors.forM fun name =>
    ensure (file.auditors.contains name) (.undeclaredAuditor scope name)

def checkSome {α : Type} (check : α → Except RuleFileFault Unit) : Option α →
    Except RuleFileFault Unit
  | none => .ok ()
  | some value => check value

def defaultScope : String := "default"

def checkDefaults (file : RuleFile) : Except RuleFileFault Unit := do
  checkSome (file.checkStrategy defaultScope "default_database_strategy")
    file.defaultDatabaseStrategy
  checkSome (file.checkStrategy defaultScope "default_table_strategy") file.defaultTableStrategy
  checkSome (file.checkKey defaultScope) file.defaultKey
  checkSome (file.checkAudit defaultScope) file.defaultAudit

def checkTable (file : RuleFile) (name : String) (table : TableEntry) :
    Except RuleFileFault Unit := do
  checkSome (file.checkStrategy name "database_strategy") table.databaseStrategy
  checkSome (file.checkStrategy name "table_strategy") table.tableStrategy
  checkSome (file.checkKey name) table.key
  checkSome (file.checkAudit name) table.audit

/-- An auto table has a standard strategy and declared data sources. -/
def checkAutoTable (file : RuleFile) (name : String) (table : AutoTableEntry) :
    Except RuleFileFault Unit := do
  file.checkStrategy name "sharding_strategy" table.strategy
  ensure table.strategy.standard.isSome (.notStandard name)
  checkSome (file.checkKey name) table.key
  checkSome (file.checkAudit name) table.audit
  checkSome
    (fun list => (Text.items list).forM fun (dataSource : String) =>
      ensure (file.dataSources.contains dataSource) (.undeclaredSource name dataSource))
    table.dataSources

def tableNames (file : RuleFile) : List String :=
  file.tables.keys ++ file.autoTables.keys

/-- Adds the members of a group to the keys of those seen. Members are declared tables and
belong to one group only. -/
def checkMembers (file : RuleFile) : List String → List String → Except RuleFileFault (List String)
  | seen, [] => .ok seen
  | seen, member :: rest =>
    let key := Name.fold member
    if key ∉ file.tableNames.map Name.fold then .error (.undeclaredMember member)
    else if key ∈ seen then .error (.repeatedMember member)
    else checkMembers file (key :: seen) rest

/-- The keys of the members of all groups from the given one on, each of them listing one at
least. -/
def checkGroups (file : RuleFile) : Nat → List String → List String →
    Except RuleFileFault (List String)
  | _, seen, [] => .ok seen
  | index, seen, group :: rest => do
    let members := Text.items group
    ensure (!members.isEmpty) (.emptyGroup index)
    checkGroups file (index + 1) (← checkMembers file seen members) rest

/-- A broadcast table is neither an auto table nor a member of a group. -/
def checkBroadcast (file : RuleFile) (members : List String) (table : String) :
    Except RuleFileFault Unit := do
  ensure (Name.fold table ∉ file.autoTables.keys.map Name.fold) (.broadcastAuto table)
  ensure (Name.fold table ∉ members) (.broadcastMember table)

def check (file : RuleFile) : Except RuleFileFault Unit := do
  ensure (!file.dataSources.isEmpty) .noDataSources
  checkDataSources [] file.dataSources
  checkSome (fun name => ensure (file.dataSources.contains name) (.undeclaredDefault name))
    file.defaultDataSource
  checkTableNames [] file.tableNames
  file.checkDefaults
  file.tables.entries.forM fun (name, table) => file.checkTable name table
  file.autoTables.entries.forM fun (name, table) => file.checkAutoTable name table
  let members ← file.checkGroups 0 [] file.bindingTables
  file.broadcastTables.forM (file.checkBroadcast members)

end Sharding.RuleFile
