import Sharding.DataNode
import Sharding.Template.Basic
import Sharding.Value

/-!
# Faults

The causes of errors, each kind with the wording of its messages.
-/

set_option autoImplicit false

namespace Sharding

/-- What an algorithm can be asked for: a place by the value of one column, by the values of
several columns, or by values from outside the statement. -/
inductive Capability where
  | standard
  | complex
  | hint
  deriving DecidableEq, Repr

def Capability.shown : Capability → String
  | .standard => "standard"
  | .complex => "complex"
  | .hint => "hint"

def Template.Fault.report (source : String) (fault : Template.Fault) : String :=
  String.join ["Invalid expression '", source, "': ", fault.message]

inductive InitFault where
  /-- A required property that is absent or blank. -/
  | missing (key : String)
  /-- A property that is no integer. -/
  | notInteger (key raw : String) (fault : Word.Fault)
  /-- A property that is no datetime. -/
  | notDateTime (key raw : String)
  | template (source : String) (fault : Template.Fault)
  | notPositive (key : String) (value : Int64)
  /-- Ends of a range whose distance fits in no word. -/
  | wideRange
  /-- A range shorter than its partitions. -/
  | shortRange
  /-- An upper end before the lower one. -/
  | invertedEnds (upperKey lowerKey : String)
  | vibration (offset : Int64)
  | workerId (id greatest : Nat)
  /-- A type that no factory of its family is registered for. -/
  | unknownType (family : String) (registered : List String)
  /-- A fault that someone else found. -/
  | reported (text : String)
  deriving DecidableEq, Repr

def InitFault.message : InitFault → String
  | .missing key => String.join [key, " cannot be null"]
  | .notInteger key raw fault =>
    String.join [key, " has invalid value '", raw, "': ", fault.message]
  | .notDateTime key raw => String.join [key, " '", raw, "' does not match ", Calendar.plainForm]
  | .template source fault => fault.report source
  | .notPositive key value => String.join [key, " must be positive, got ", Word.text value]
  | .wideRange => "range is too wide"
  | .shortRange => "Range can not be smaller than volume"
  | .invertedEnds upperKey lowerKey => String.join [upperKey, " is earlier than ", lowerKey]
  | .vibration offset => String.join ["Illegal max vibration offset ", Word.text offset]
  | .workerId id greatest => String.join ["worker id ", toString id, " exceeds ", toString greatest]
  | .unknownType family registered =>
    String.join ["unknown ", family, " algorithm type (registered: ", ", ".intercalate registered,
      ")"]
  | .reported text => text

inductive SelectionFault where
  | template (source : String) (fault : Template.Fault)
  /-- A range whose ends are no integers. -/
  | notIntegerRange (range : ValueRange)
  | notInteger (value : Value)
  | notDateTime (value : Value)
  | manyCombinations
  /-- A range on one of several sharding columns. -/
  | rangeOn (column : String)
  /-- One of several sharding columns without a value. -/
  | noValue (columns : Nat) (column : String)
  /-- A fault that someone else found. -/
  | reported (text : String)
  deriving DecidableEq, Repr

def SelectionFault.message : SelectionFault → String
  | .template source fault => fault.report source
  | .notIntegerRange range => String.join ["range ", range.shown, " has non-integer bounds"]
  | .notInteger value => String.join ["'", value.shown, "' is not an integer"]
  | .notDateTime value =>
    String.join ["'", value.shown, "' is not a datetime in format ", Calendar.plainForm]
  | .manyCombinations => "too many value combinations"
  | .rangeOn column => String.join ["range values on column ", column, " are not supported"]
  | .noValue columns column =>
    String.join ["needs values for all ", toString columns, " sharding columns, column ", column,
      " has none"]
  | .reported text => text

/-- What a rule file gets wrong on its own, before anything is built from it. The scope of a
strategy is the table that has it, or the defaults. -/
inductive RuleFileFault where
  | noDataSources
  | blankDataSource
  | repeatedDataSource (name : String)
  | undeclaredDefault (name : String)
  | blankTable
  | repeatedTable (name : String)
  | manyKinds (scope field : String)
  | noColumn (scope field : String)
  | noColumns (scope field : String)
  | undeclaredAlgorithm (scope field name : String)
  | blankKeyColumn (scope : String)
  | undeclaredKeyGenerator (scope name : String)
  | undeclaredAuditor (scope name : String)
  | notStandard (table : String)
  | undeclaredSource (table dataSource : String)
  | emptyGroup (index : Nat)
  | undeclaredMember (table : String)
  | repeatedMember (table : String)
  | broadcastAuto (table : String)
  | broadcastMember (table : String)
  deriving DecidableEq, Repr

def RuleFileFault.message : RuleFileFault → String
  | .noDataSources => "data_sources must list at least one data source"
  | .blankDataSource => "data_sources contains an empty name"
  | .repeatedDataSource name => String.join ["data source '", name, "' is declared twice"]
  | .undeclaredDefault name =>
    String.join ["default_data_source '", name, "' is not a declared data source"]
  | .blankTable => "logic table name is empty"
  | .repeatedTable name => String.join ["logic table '", name, "' is declared more than once"]
  | .manyKinds scope field => String.join [scope, ": ", field, " sets more than one strategy kind"]
  | .noColumn scope field =>
    String.join [scope, ": ", field,
      " has no sharding_column and no default_sharding_column is set"]
  | .noColumns scope field => String.join [scope, ": ", field, " lists no sharding_columns"]
  | .undeclaredAlgorithm scope field name =>
    String.join [scope, ": ", field, " references undeclared sharding algorithm '", name, "'"]
  | .blankKeyColumn scope => String.join [scope, ": key_generate_strategy.column is required"]
  | .undeclaredKeyGenerator scope name =>
    String.join [scope, ": key_generate_strategy references undeclared key generator '", name, "'"]
  | .undeclaredAuditor scope name =>
    String.join [scope, ": audit_strategy references undeclared auditor '", name, "'"]
  | .notStandard table =>
    String.join [table, ": auto table sharding_strategy must be a standard strategy"]
  | .undeclaredSource table dataSource =>
    String.join [table, ": actual_data_sources names undeclared data source '", dataSource, "'"]
  | .emptyGroup index => String.join ["binding group ", toString index, " is empty"]
  | .undeclaredMember table =>
    String.join ["binding table '", table, "' is not a declared sharded table"]
  | .repeatedMember table =>
    String.join ["binding table '", table, "' belongs to more than one binding group"]
  | .broadcastAuto table => String.join ["broadcast table '", table, "' is also an auto table"]
  | .broadcastMember table =>
    String.join ["broadcast table '", table, "' cannot be a binding table"]

/-- Why no rule can be built from a rule file, or a built rule lacks what it refers to. -/
inductive RuleFault where
  | unknownAlgorithm (name : String)
  | noColumn (algorithm : String)
  /-- A strategy whose algorithm has another capability than it needs. -/
  | capability (needed : Capability) (name : String) (found : Capability) (type : String)
  /-- An algorithm that lays out no tables. -/
  | noLayout (table algorithm : String)
  | noNodes (table : String)
  | undeclaredSource (table : String) (node : DataNode)
  | unknownMember (table : String)
  /-- Binding tables whose nodes do not correspond. -/
  | layouts (first other : String)
  | unknownKeyGenerator (name : String)
  | unknownAuditor (name : String)
  deriving DecidableEq, Repr

def RuleFault.message : RuleFault → String
  | .unknownAlgorithm name => String.join ["sharding algorithm '", name, "' is not declared"]
  | .noColumn algorithm =>
    String.join ["standard strategy using '", algorithm, "' has no sharding column"]
  | .capability needed name found type =>
    String.join [needed.shown, " strategy references '", name, "', which is a ", found.shown,
      " algorithm (", type, ")"]
  | .noLayout table algorithm =>
    String.join [table, ": algorithm '", algorithm, "' cannot lay out an auto table"]
  | .noNodes table => String.join [table, ": no actual data nodes"]
  | .undeclaredSource table node =>
    String.join [table, ": data node ", node.shown, " uses undeclared data source '",
      node.dataSource, "'"]
  | .unknownMember table => String.join ["binding table '", table, "' has no table rule"]
  | .layouts first other =>
    String.join ["binding tables ", first, " and ", other,
      " have different actual data node layouts"]
  | .unknownKeyGenerator name => String.join ["key generator '", name, "' is not declared"]
  | .unknownAuditor name => String.join ["auditor '", name, "' is not declared"]

/-- What a command asks for that the rule does not have, or says in no form that is understood. -/
inductive CommandFault where
  | unknownTable (table : String)
  | noKeyStrategy (table : String)
  | unknownKeyGenerator (name : String)
  | noKeySource
  | notPair (text : String)
  | notColumnPair (text : String)
  | notRange (text : String)
  deriving DecidableEq, Repr

def CommandFault.message : CommandFault → String
  | .unknownTable table => String.join ["Table ", table, " has no sharding rule"]
  | .noKeyStrategy table => String.join ["Table ", table, " has no key generate strategy"]
  | .unknownKeyGenerator name => String.join ["Key generator '", name, "' is not declared"]
  | .noKeySource => "keygen needs --table or --generator"
  | .notPair text => String.join ["Expected table=value, got '", text, "'"]
  | .notColumnPair text => String.join ["Expected table.column=value, got '", text, "'"]
  | .notRange text => String.join ["Expected lower..upper, got '", text, "'"]

inductive ConfigFault where
  | ruleFile (fault : RuleFileFault)
  | rule (fault : RuleFault)
  | node (fault : DataNode.Fault)
  | command (fault : CommandFault)
  /-- A fault that someone else found. -/
  | reported (text : String)
  deriving DecidableEq, Repr

def ConfigFault.message : ConfigFault → String
  | .ruleFile fault => fault.message
  | .rule fault => fault.message
  | .node fault => fault.message
  | .command fault => fault.message
  | .reported text => text

/-- Why the conditions and hints of a statement cannot be used to route a table. -/
inductive MismatchFault where
  /-- The algorithm of a strategy cannot place the values. -/
  | selection (type : String) (fault : SelectionFault)
  /-- Hinted values for a strategy on several columns. -/
  | hintedComplex (algorithm : String)
  /-- A hinted data source that is not configured. -/
  | unknownDataSource (dataSource : String)
  /-- A fault that someone else found. -/
  | reported (text : String)
  deriving DecidableEq, Repr

def SelectionFault.report (type : String) (fault : SelectionFault) : String :=
  String.join [type, " sharding failed: ", fault.message]

def MismatchFault.message : MismatchFault → String
  | .selection type fault => fault.report type
  | .hintedComplex algorithm =>
    String.join ["hint values cannot drive complex strategy '", algorithm, "'"]
  | .unknownDataSource dataSource =>
    String.join ["hinted data source '", dataSource, "' is not configured"]
  | .reported text => text

end Sharding
