import Sharding.Properties

/-!
# Auditors

Checks that a table has to pass before it is routed.
-/

set_option autoImplicit false

namespace Sharding

/-- What an auditor sees of a table in a statement. -/
structure AuditView where
  table : String
  /-- A sharding condition reaches the table, from the statement or through a binding group. -/
  conditioned : Bool
  /-- Hinted values reach the table. -/
  hinted : Bool
  deriving DecidableEq, Repr

structure Auditor where
  type : String
  passes : AuditView → Bool

namespace Auditor

def shardingConditionsType : String := "DML_SHARDING_CONDITIONS"

/-- Refuses tables that no sharding condition and no hint reaches, since every data node of such
a table would be selected. -/
def shardingConditions : Auditor where
  type := shardingConditionsType
  passes view := view.conditioned || view.hinted

end Auditor

end Sharding
