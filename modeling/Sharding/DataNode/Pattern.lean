import Sharding.DataNode
import Sharding.Error.Basic
import Sharding.Template.Basic
import Sharding.Text.Items
import Std.Data.TreeSet.Basic

/-!
# Patterns of data nodes

A pattern is a list of templates. It stands for the nodes named by the expansions of its
templates, in order. No node may occur twice.
-/

set_option autoImplicit false

namespace Sharding.DataNode

/-- Distinct nodes, from the latest back, and the set of them. -/
structure Collected where
  latest : List DataNode := []
  seen : Std.TreeSet DataNode order := ∅

def Collected.add? (nodes : Collected) (node : DataNode) : Option Collected :=
  if nodes.seen.contains node then none
  else some { latest := node :: nodes.latest, seen := nodes.seen.insert node }

def Collected.addName (pattern : String) (nodes : Collected) (name : String) :
    Except Error Collected :=
  match parse name with
  | .error fault => .error (.config (.node fault))
  | .ok node =>
    match nodes.add? node with
    | none => .error (.config (.node (.repeated node pattern)))
    | some nodes => .ok nodes

/-- The names that a template without names in its placeholders stands for. -/
def expandItem (item : String) : Except Error (List String) :=
  match Template.parse item >>= Template.expand with
  | .error fault => .error (.expression item fault)
  | .ok names => .ok names

def Collected.addItem (pattern : String) (nodes : Collected) (item : String) :
    Except Error Collected := do
  (← expandItem item).foldlM (Collected.addName pattern) nodes

def expand (pattern : String) : Except Error (List DataNode) := do
  let nodes ← (Text.items pattern).foldlM (Collected.addItem pattern) {}
  if nodes.latest.isEmpty then .error (.expression pattern .noNodes)
  else return nodes.latest.reverse

end Sharding.DataNode
