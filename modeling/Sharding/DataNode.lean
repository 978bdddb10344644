import Sharding.Text.Blank

/-!
# Data nodes

The physical places of rows: a table on a data source.
-/

set_option autoImplicit false

namespace Sharding

structure DataNode where
  dataSource : String
  table : String
  deriving DecidableEq, Repr

namespace DataNode

inductive Fault where
  /-- A text that is not two names around one point. -/
  | malformed (text : String)
  /-- A node that a pattern gives twice. -/
  | repeated (node : DataNode) (pattern : String)
  deriving DecidableEq, Repr

/-- The data source and the table with a point between them. -/
def shown (node : DataNode) : String :=
  node.dataSource ++ "." ++ node.table

def Fault.message : Fault → String
  | .malformed text =>
    String.join ["Invalid data node '", text, "': expected <data_source>.<table>"]
  | .repeated node pattern =>
    String.join ["data node ", node.shown, " appears more than once in '", pattern, "'"]

/-- The two texts around the only point of the characters, neither of them empty. -/
def halves? (chars : List Char) : Option (List Char × List Char) :=
  match chars.span (· ≠ '.') with
  | (_ :: _, '.' :: second@(_ :: _)) =>
    if second.contains '.' then none else some (chars.takeWhile (· ≠ '.'), second)
  | _ => none

def parse (text : String) : Except Fault DataNode :=
  let chars := Text.trimChars text.toList
  match halves? chars with
  | some (dataSource, table) => .ok ⟨String.ofList dataSource, String.ofList table⟩
  | none => .error (.malformed (String.ofList chars))

def order (left right : DataNode) : Ordering :=
  (compare left.dataSource right.dataSource).then (compare left.table right.table)

instance : Ord DataNode := ⟨order⟩

end DataNode

end Sharding
