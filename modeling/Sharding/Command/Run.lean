import Sharding.Command.Statement
import Sharding.Document.Writer
import Sharding.Hint.Context
import Sharding.Route
import Sharding.Rule.Build
import Sharding.Rule.Keys

/-!
# Running commands

What a command answers, given what the rule file loads to and the time on the clock. An answer is
written either as lines or as a document.
-/

set_option autoImplicit false

namespace Sharding.Command

inductive Answer where
  | valid (rule : Rule)
  | nodes (tables : List TableRule)
  | route (route : Route)
  /-- Keys in the order they were drawn, and the time on the clock after the last one. -/
  | keys (keys : List Int64) (clock : Clock)

def refuse {α : Type} : Except CommandFault α → Except Error α
  | .ok value => .ok value
  | .error fault => .error (.config (.command fault))

def shownTables (rule : Rule) : Option String → Except CommandFault (List TableRule)
  | none => .ok rule.tables.values
  | some name =>
    match rule.table? name with
    | some table => .ok [table]
    | none => .error (.unknownTable name)

/-- Routes a request in a context that is taken. The hint is complete before the statement is
read. -/
def routeRequest (rule : Rule) (request : RouteRequest) : HintContext.Work Route := fun context =>
  match refuse request.changes with
  | .error error => (.error error, context)
  | .ok changes =>
    let context := changes.foldl HintContext.change context
    (do rule.routeIn context (← refuse request.statement), context)

/-- Draws a number of keys one after the other, onto those drawn so far from the latest back. -/
def drawMany (draw : KeyState → Except Error (Int64 × KeyState)) :
    Nat → List Int64 → KeyState → Except Error (List Int64 × KeyState)
  | 0, latest, state => .ok (latest.reverse, state)
  | count + 1, latest, state => do
    let (key, state) ← draw state
    drawMany draw count (key :: latest) state

def drawForTable (rule : Rule) (table : String) (state : KeyState) :
    Except Error (Int64 × KeyState) := do
  match ← rule.generateKey state table with
  | some (key, state) => return (key.value, state)
  | none => refuse (.error (.noKeyStrategy table))

/-- Draws keys. An unknown generator is refused even if no key is asked for. -/
def drawKeys (rule : Rule) (clock : Clock) (source : Option KeySource) (count : Nat) :
    Except Error (List Int64 × KeyState) :=
  match source with
  | none => refuse (.error .noKeySource)
  | some (.table table) => drawMany (drawForTable rule table) count [] { clock }
  | some (.generator generator) =>
    match rule.keyGenerators.get? generator with
    | none => refuse (.error (.unknownKeyGenerator generator))
    | some settings => drawMany (fun state => state.draw generator settings) count [] { clock }

def perform (rule : Rule) (clock : Clock) : Task → Except Error Answer
  | .validate => .ok (.valid rule)
  | .nodes table => do return .nodes (← refuse (shownTables rule table))
  | .route request => do
    return .route (← (HintContext.scope none (routeRequest rule request)).1)
  | .keys source count => do
    let (keys, state) ← drawKeys rule clock source count
    return .keys keys state.clock

def run (file : Except Error RuleFile) (clock : Clock) (task : Task) : Except Error Answer := do
  perform (← Rule.ofFile (← file)) clock task

namespace Answer

/-- The nodes of a table as a document, with the fields in name order. -/
def tableDocument (table : TableRule) : Document :=
  .record
    [("actual_data_nodes", .list (table.nodes.map DataNode.toDocument)),
      ("auto", .bool table.auto),
      ("database_strategy", .text table.databaseStrategy.shown),
      ("logic_table", .text table.logicTable),
      ("table_strategy", .text table.tableStrategy.shown)]

def toDocument : Answer → Document
  | .valid rule =>
    .record
      [("broadcast_tables", .ofTexts rule.broadcastTables),
        ("data_sources", .ofTexts rule.dataSources),
        ("fingerprint", .text rule.fingerprint),
        ("tables", .ofNat rule.tables.size),
        ("valid", .bool true)]
  | .nodes tables => .list (tables.map tableDocument)
  | .route result => result.toDocument
  | .keys drawn _ => .list (drawn.map Document.ofWord)

def tableLines (table : TableRule) : List String :=
  (table.logicTable ++ " [database: " ++ table.databaseStrategy.shown ++ ", table: " ++
      table.tableStrategy.shown ++ "]") ::
    table.nodes.map fun node => "  " ++ node.shown

def routeLine (entry : TableRoute) : String :=
  entry.table ++ " (" ++ entry.source.shown ++ "): " ++
    ", ".intercalate (entry.nodes.map DataNode.shown)

def lines : Answer → List String
  | .valid rule =>
    ["Rule file is valid",
      "  Data sources: " ++ ", ".intercalate rule.dataSources,
      "  Sharded tables: " ++ toString rule.tables.size,
      "  Fingerprint: " ++ rule.fingerprint]
  | .nodes tables => tables.flatMap tableLines
  | .route result =>
    result.tables.map routeLine ++ if result.writeOnly then ["(write route only)"] else []
  | .keys drawn _ => drawn.map Word.text

def text (answer : Answer) (json : Bool) : String :=
  if json then answer.toDocument.pretty ++ "\n"
  else String.join (answer.lines.map (· ++ "\n"))

end Answer

def usageCode : Nat := 2

end Sharding.Command
