import Sharding.RuleFile.Basic

/-!
# Rule files as documents

Reading a rule file from a document and writing it as one. A record has each of its fields once at
most, and fields that it does not know are ignored; of two entries of a map with one key the later
counts. Optional fields may be null; lists, maps and required fields may not.
-/

set_option autoImplicit false

namespace Sharding

inductive Style where
  /-- A bare scalar counts as its text. -/
  | loose
  /-- Only texts count as texts. A list may stand for the fields of a record in order. -/
  | strict
  deriving DecidableEq, Repr

namespace Style

def text? (style : Style) : Document → Option String
  | .text content => some content
  | .null => if style = .loose then some "null" else none
  | .bool value => if style = .loose then some (if value then "true" else "false") else none
  | .number value => if style = .loose then some value.written else none
  | _ => none

/-- The fields of the record that a document stands for, out of fields with the given names. No
field with one of these names is repeated. -/
def fields? (style : Style) (names : List String) (document : Document) :
    Option (List (String × Document)) :=
  match document with
  | .record fields =>
    if ((fields.map (·.1)).filter (· ∈ names)).Nodup then some fields else none
  | .list items =>
    if style = .strict ∧ items.length ≤ names.length then some (names.zip items) else none
  | _ => none

end Style

namespace Document

variable {α : Type}

def required (name : String) (read : Document → Option α) (fields : List (String × Document)) :
    Option α :=
  (field? name fields).bind read

def optional (name : String) (read : Document → Option α) (fields : List (String × Document)) :
    Option (Option α) :=
  match field? name fields with
  | none => some none
  | some .null => some none
  | some document => (read document).map some

def texts? (style : Style) : Document → Option (List String)
  | .list items => items.mapM style.text?
  | _ => none

/-- The value of a field that may be absent, but not null, and then has a default. -/
def orDefault (name : String) (default : α) (read : Document → Option α)
    (fields : List (String × Document)) : Option α :=
  match field? name fields with
  | none => some default
  | some document => read document

def values? (read : Document → Option α) : Document → Option (NameMap α)
  | .record fields => do
    let entries ← fields.mapM fun (key, value) => do return (key, ← read value)
    return .ofList entries
  | _ => none

def bool? : Document → Option Bool
  | .bool value => some value
  | _ => none

def whenSome (name : String) (write : α → Document) : Option α → List (String × Document)
  | none => []
  | some value => [(name, write value)]

def ofMap (write : α → Document) (map : NameMap α) : Document :=
  .record (map.entries.map fun (key, value) => (key, write value))

end Document

open Document (required optional orDefault texts? values? bool? whenSome ofMap ofTexts)

namespace StandardEntry

def ofDocument? (style : Style) (document : Document) : Option StandardEntry := do
  let fields ← style.fields? ["sharding_column", "algorithm"] document
  return { column := ← optional "sharding_column" style.text? fields
           algorithm := ← required "algorithm" style.text? fields }

def toDocument (entry : StandardEntry) : Document :=
  .record (whenSome "sharding_column" .text entry.column ++ [("algorithm", .text entry.algorithm)])

end StandardEntry

namespace ComplexEntry

def ofDocument? (style : Style) (document : Document) : Option ComplexEntry := do
  let fields ← style.fields? ["sharding_columns", "algorithm"] document
  return { columns := ← required "sharding_columns" style.text? fields
           algorithm := ← required "algorithm" style.text? fields }

def toDocument (entry : ComplexEntry) : Document :=
  .record [("sharding_columns", .text entry.columns), ("algorithm", .text entry.algorithm)]

end ComplexEntry

namespace HintEntry

def ofDocument? (style : Style) (document : Document) : Option HintEntry := do
  let fields ← style.fields? ["algorithm"] document
  return { algorithm := ← required "algorithm" style.text? fields }

def toDocument (entry : HintEntry) : Document :=
  .record [("algorithm", .text entry.algorithm)]

end HintEntry

namespace StrategyEntry

def ofDocument? (style : Style) (document : Document) : Option StrategyEntry := do
  let fields ← style.fields? ["standard", "complex", "hint", "none"] document
  return { standard := ← optional "standard" (StandardEntry.ofDocument? style) fields
           complex := ← optional "complex" (ComplexEntry.ofDocument? style) fields
           hint := ← optional "hint" (HintEntry.ofDocument? style) fields
           unsharded := (← optional "none" (style.fields? []) fields).isSome }

def toDocument (entry : StrategyEntry) : Document :=
  .record
    (whenSome "standard" StandardEntry.toDocument entry.standard ++
      whenSome "complex" ComplexEntry.toDocument entry.complex ++
      whenSome "hint" HintEntry.toDocument entry.hint ++
      if entry.unsharded then [("none", .record [])] else [])

end StrategyEntry

namespace KeyEntry

def ofDocument? (style : Style) (document : Document) : Option KeyEntry := do
  let fields ← style.fields? ["column", "key_generator"] document
  return { column := ← required "column" style.text? fields
           generator := ← required "key_generator" style.text? fields }

def toDocument (entry : KeyEntry) : Document :=
  .record [("column", .text entry.column), ("key_generator", .text entry.generator)]

end KeyEntry

namespace AuditEntry

def ofDocument? (style : Style) (document : Document) : Option AuditEntry := do
  let fields ← style.fields? ["auditors", "force_sharding"] document
  return { auditors := ← required "auditors" (texts? style) fields
           force := ← orDefault "force_sharding" false bool? fields }

def toDocument (entry : AuditEntry) : Document :=
  .record [("auditors", ofTexts entry.auditors), ("force_sharding", .bool entry.force)]

end AuditEntry

namespace TableEntry

def ofDocument? (style : Style) (document : Document) : Option TableEntry := do
  let fields ← style.fields?
    ["actual_data_nodes", "database_strategy", "table_strategy", "key_generate_strategy",
      "audit_strategy"] document
  return { nodes := ← optional "actual_data_nodes" style.text? fields
           databaseStrategy :=
             ← optional "database_strategy" (StrategyEntry.ofDocument? style) fields
           tableStrategy := ← optional "table_strategy" (StrategyEntry.ofDocument? style) fields
           key := ← optional "key_generate_strategy" (KeyEntry.ofDocument? style) fields
           audit := ← optional "audit_strategy" (AuditEntry.ofDocument? style) fields }

def toDocument (entry : TableEntry) : Document :=
  .record
    (whenSome "actual_data_nodes" .text entry.nodes ++
      whenSome "database_strategy" StrategyEntry.toDocument entry.databaseStrategy ++
      whenSome "table_strategy" StrategyEntry.toDocument entry.tableStrategy ++
      whenSome "key_generate_strategy" KeyEntry.toDocument entry.key ++
      whenSome "audit_strategy" AuditEntry.toDocument entry.audit)

end TableEntry

namespace AutoTableEntry

def ofDocument? (style : Style) (document : Document) : Option AutoTableEntry := do
  let fields ← style.fields?
    ["actual_data_sources", "sharding_strategy", "key_generate_strategy", "audit_strategy"]
    document
  return { dataSources := ← optional "actual_data_sources" style.text? fields
           strategy := ← required "sharding_strategy" (StrategyEntry.ofDocument? style) fields
           key := ← optional "key_generate_strategy" (KeyEntry.ofDocument? style) fields
           audit := ← optional "audit_strategy" (AuditEntry.ofDocument? style) fields }

def toDocument (entry : AutoTableEntry) : Document :=
  .record
    (whenSome "actual_data_sources" .text entry.dataSources ++
      [("sharding_strategy", entry.strategy.toDocument)] ++
      whenSome "key_generate_strategy" KeyEntry.toDocument entry.key ++
      whenSome "audit_strategy" AuditEntry.toDocument entry.audit)

end AutoTableEntry

namespace AlgorithmEntry

def ofDocument? (style : Style) (document : Document) : Option AlgorithmEntry := do
  let fields ← style.fields? ["type", "props"] document
  return { type := ← required "type" style.text? fields
           properties := ← orDefault "props" .empty Properties.ofDocument? fields }

def toDocument (entry : AlgorithmEntry) : Document :=
  .record
    (("type", .text entry.type) ::
      if entry.properties.isEmpty then [] else [("props", entry.properties.toDocument)])

end AlgorithmEntry

namespace RuleFile

def fieldNames : List String :=
  ["data_sources", "default_data_source", "tables", "auto_tables", "binding_tables",
    "broadcast_tables", "default_database_strategy", "default_table_strategy",
    "default_key_generate_strategy", "default_audit_strategy", "default_sharding_column",
    "sharding_algorithms", "key_generators", "auditors"]

def ofDocument? (style : Style) (document : Document) : Option RuleFile := do
  let fields ← style.fields? fieldNames document
  let tables := values? (TableEntry.ofDocument? style)
  let autoTables := values? (AutoTableEntry.ofDocument? style)
  let algorithms := values? (AlgorithmEntry.ofDocument? style)
  return {
    dataSources := ← required "data_sources" (texts? style) fields
    defaultDataSource := ← optional "default_data_source" style.text? fields
    tables := ← orDefault "tables" .empty tables fields
    autoTables := ← orDefault "auto_tables" .empty autoTables fields
    bindingTables := ← orDefault "binding_tables" [] (texts? style) fields
    broadcastTables := ← orDefault "broadcast_tables" [] (texts? style) fields
    defaultDatabaseStrategy :=
      ← optional "default_database_strategy" (StrategyEntry.ofDocument? style) fields
    defaultTableStrategy :=
      ← optional "default_table_strategy" (StrategyEntry.ofDocument? style) fields
    defaultKey := ← optional "default_key_generate_strategy" (KeyEntry.ofDocument? style) fields
    defaultAudit := ← optional "default_audit_strategy" (AuditEntry.ofDocument? style) fields
    defaultColumn := ← optional "default_sharding_column" style.text? fields
    algorithms := ← orDefault "sharding_algorithms" .empty algorithms fields
    keyGenerators := ← orDefault "key_generators" .empty algorithms fields
    auditors := ← orDefault "auditors" .empty algorithms fields }

/-- The written form. Lists and maps are there even if they are empty; optional fields without a
value are left out. -/
def toDocument (file : RuleFile) : Document :=
  .record
    ([("data_sources", ofTexts file.dataSources)] ++
      whenSome "default_data_source" .text file.defaultDataSource ++
      [("tables", ofMap TableEntry.toDocument file.tables),
        ("auto_tables", ofMap AutoTableEntry.toDocument file.autoTables),
        ("binding_tables", ofTexts file.bindingTables),
        ("broadcast_tables", ofTexts file.broadcastTables)] ++
      whenSome "default_database_strategy" StrategyEntry.toDocument file.defaultDatabaseStrategy ++
      whenSome "default_table_strategy" StrategyEntry.toDocument file.defaultTableStrategy ++
      whenSome "default_key_generate_strategy" KeyEntry.toDocument file.defaultKey ++
      whenSome "default_audit_strategy" AuditEntry.toDocument file.defaultAudit ++
      whenSome "default_sharding_column" .text file.defaultColumn ++
      [("sharding_algorithms", ofMap AlgorithmEntry.toDocument file.algorithms),
        ("key_generators", ofMap AlgorithmEntry.toDocument file.keyGenerators),
        ("auditors", ofMap AlgorithmEntry.toDocument file.auditors)])

end RuleFile

end Sharding
