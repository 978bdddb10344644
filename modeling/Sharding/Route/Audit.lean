import Sharding.Rule.Basic

/-!
# Audits of routes

A table whose audit is forced is routed only if all of its auditors let it pass. A forced audit
without auditors asks for a sharding condition or a hint.
-/

set_option autoImplicit false

namespace Sharding

namespace AuditEntry

/-- The name under which a forced audit without auditors refuses tables. -/
def forced : String := "force_sharding"

end AuditEntry

namespace Rule

def auditBy (rule : Rule) (view : AuditView) (name : String) : Except Error Unit :=
  match rule.auditors.get? name with
  | none => .error (.config (.rule (.unknownAuditor name)))
  | some auditor => if auditor.passes view then .ok () else .error (.audit view.table name)

def audit (rule : Rule) (table : TableRule) (conditioned hinted : Bool) : Except Error Unit :=
  match table.audit with
  | none => .ok ()
  | some entry =>
    if !entry.force then .ok ()
    else if entry.auditors.isEmpty && !conditioned && !hinted then
      .error (.audit table.logicTable AuditEntry.forced)
    else entry.auditors.forM (rule.auditBy { table := table.logicTable, conditioned, hinted })

end Rule

end Sharding
