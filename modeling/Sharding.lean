import Sharding.Audit
import Sharding.Calendar.Date
import Sharding.Calendar.DateTime
import Sharding.Calendar.Text
import Sharding.Catalog
import Sharding.Command.Arguments
import Sharding.Command.Run
import Sharding.Command.Statement
import Sharding.DataNode
import Sharding.DataNode.Pattern
import Sharding.Digest
import Sharding.Document
import Sharding.Document.Block
import Sharding.Document.Folding
import Sharding.Document.Reader
import Sharding.Document.Scalar
import Sharding.Document.TextStyle
import Sharding.Document.Writer
import Sharding.Error.Basic
import Sharding.Error.Fault
import Sharding.Hint.Basic
import Sharding.Hint.Context
import Sharding.Key.Snowflake
import Sharding.Main
import Sharding.NameMap
import Sharding.Number.Binary64
import Sharding.Number.Decimal
import Sharding.Number.Shortest
import Sharding.Placement.Basic
import Sharding.Placement.Inline
import Sharding.Placement.Interval
import Sharding.Placement.Suffix
import Sharding.Placement.Volume
import Sharding.Proofs.Calendar.Cut
import Sharding.Proofs.Calendar.Distance
import Sharding.Proofs.Calendar.Fields
import Sharding.Proofs.Calendar.IsoForm
import Sharding.Proofs.Calendar.Order
import Sharding.Proofs.Calendar.Steady
import Sharding.Proofs.Catalog
import Sharding.Proofs.Command.Predicates
import Sharding.Proofs.DataNode.Pattern
import Sharding.Proofs.Hint.History
import Sharding.Proofs.Key.Draw
import Sharding.Proofs.Key.Layout
import Sharding.Proofs.Key.Rotation
import Sharding.Proofs.Key.Run
import Sharding.Proofs.Key.Waiting
import Sharding.Proofs.Number.Precision
import Sharding.Proofs.Number.Rounding
import Sharding.Proofs.Outcome
import Sharding.Proofs.Placement.BucketRounding
import Sharding.Proofs.Placement.Buckets
import Sharding.Proofs.Placement.CandidateOrder
import Sharding.Proofs.Placement.Combinations
import Sharding.Proofs.Placement.Coverage
import Sharding.Proofs.Placement.Enumeration
import Sharding.Proofs.Placement.Failures
import Sharding.Proofs.Placement.Numbering
import Sharding.Proofs.Placement.NumericText
import Sharding.Proofs.Placement.Partitions
import Sharding.Proofs.Placement.Ranges
import Sharding.Proofs.Placement.SideBySide
import Sharding.Proofs.Placement.Suffix
import Sharding.Proofs.Route.Agreement
import Sharding.Proofs.Route.Alternatives
import Sharding.Proofs.Route.Audit
import Sharding.Proofs.Route.AutoTables
import Sharding.Proofs.Route.Binding
import Sharding.Proofs.Route.Coverage
import Sharding.Proofs.Route.Determined
import Sharding.Proofs.Route.Failures
import Sharding.Proofs.Route.HintedValues
import Sharding.Proofs.Route.Inside
import Sharding.Proofs.Route.Lists
import Sharding.Proofs.Route.Monotone
import Sharding.Proofs.Route.Noninterference
import Sharding.Proofs.Route.Order
import Sharding.Proofs.Route.Passes
import Sharding.Proofs.Route.Selection
import Sharding.Proofs.Route.Separation
import Sharding.Proofs.Route.Spelling
import Sharding.Proofs.Route.Tables
import Sharding.Proofs.Rule.AutoTables
import Sharding.Proofs.Rule.Build
import Sharding.Proofs.Rule.Failures
import Sharding.Proofs.Rule.References
import Sharding.Proofs.Rule.Resolution
import Sharding.Proofs.RuleFile.Check
import Sharding.Proofs.RuleFile.Document
import Sharding.Proofs.RuleFile.WellFormed
import Sharding.Proofs.Statement
import Sharding.Proofs.TableRule
import Sharding.Proofs.Template.Arithmetic
import Sharding.Proofs.Template.Brackets
import Sharding.Proofs.Template.Expansion
import Sharding.Proofs.Template.Grammar
import Sharding.Proofs.Template.Layout
import Sharding.Proofs.Template.Names
import Sharding.Proofs.Template.Printing
import Sharding.Proofs.Template.Spelling
import Sharding.Proofs.Template.Tokens
import Sharding.Proofs.Text.Around
import Sharding.Proofs.Text.Items
import Sharding.Proofs.Text.Margins
import Sharding.Proofs.Value
import Sharding.Proofs.Word.Decimal
import Sharding.Properties
import Sharding.Route
import Sharding.Route.Audit
import Sharding.Route.Basic
import Sharding.Route.Group
import Sharding.Route.Selection
import Sharding.Rule.Basic
import Sharding.Rule.Build
import Sharding.Rule.Keys
import Sharding.RuleFile.Basic
import Sharding.RuleFile.Check
import Sharding.RuleFile.Document
import Sharding.RuleFile.Load
import Sharding.Statement
import Sharding.Strategy
import Sharding.TableRule
import Sharding.Template.Basic
import Sharding.Template.Expression
import Sharding.Template.Grammar
import Sharding.Template.Token
import Sharding.Text.Around
import Sharding.Text.Blank
import Sharding.Text.Items
import Sharding.Text.Letter
import Sharding.Text.Name
import Sharding.Text.Quoted
import Sharding.Text.Ranges
import Sharding.Text.Shape
import Sharding.Value
import Sharding.Word
import Sharding.Word.Decimal
