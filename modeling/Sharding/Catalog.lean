import Sharding.Audit
import Sharding.Key.Snowflake
import Sharding.Placement.Inline
import Sharding.Placement.Interval
import Sharding.Placement.Volume

/-!
# Catalogs

A catalog knows how to set up the algorithms of each type. Types are registered and looked up
without regard to case and blank margins.
-/

set_option autoImplicit false

namespace Sharding

/-- The factories of sharding algorithms, key generators and auditors by type, and the source of
worker ids for the generators. -/
structure Catalog where
  placements : NameMap (Properties → Except Error Placement) := .empty
  keyGenerators : NameMap (Properties → WorkerSource → Except Error Snowflake) := .empty
  auditors : NameMap (Properties → Except Error Auditor) := .empty
  workers : WorkerSource := none

namespace Catalog

def normalize (type : String) : String :=
  Name.upper (Text.trim type)

def registerPlacement (catalog : Catalog) (type : String)
    (factory : Properties → Except Error Placement) : Catalog :=
  { catalog with placements := catalog.placements.insert (normalize type) factory }

def registerKeyGenerator (catalog : Catalog) (type : String)
    (factory : Properties → WorkerSource → Except Error Snowflake) : Catalog :=
  { catalog with keyGenerators := catalog.keyGenerators.insert (normalize type) factory }

def registerAuditor (catalog : Catalog) (type : String)
    (factory : Properties → Except Error Auditor) : Catalog :=
  { catalog with auditors := catalog.auditors.insert (normalize type) factory }

def empty : Catalog := {}

def inline (properties : Properties) : Except Error Placement := do
  return .standard (← Inline.ofProperties? properties).placement

def interval (properties : Properties) : Except Error Placement := do
  return .standard (← Interval.ofProperties? properties).placement

def volume (properties : Properties) : Except Error Placement := do
  return .standard (← Volume.ofProperties? properties).placement

/-- Sets up a placement by a template over several columns. -/
def complexInline (properties : Properties) : Except Error Placement := do
  return .complex (← ComplexInline.ofProperties? properties).placement

def hintInline (properties : Properties) : Except Error Placement := do
  return .hint (← HintInline.ofProperties? properties).placement

/-- Sets up the auditor of sharding conditions, which has no properties. -/
def shardingConditions (_properties : Properties) : Except Error Auditor :=
  .ok Auditor.shardingConditions

def builtin : Catalog :=
  { placements := .ofList
      [(Inline.type, inline), (Interval.type, interval), (Volume.type, volume),
        (ComplexInline.type, complexInline), (HintInline.type, hintInline)]
    keyGenerators := .ofList [(Snowflake.type, Snowflake.ofProperties?)]
    auditors := .ofList [(Auditor.shardingConditionsType, shardingConditions)] }

def find {α : Type} (factories : NameMap α) (family type : String) : Except Error α :=
  match factories.get? (normalize type) with
  | some factory => .ok factory
  | none => .error (.algorithmInit type (.unknownType family factories.keys))

def placement (catalog : Catalog) (type : String) (properties : Properties) :
    Except Error Placement := do
  (← find catalog.placements "sharding" type) properties

def keyGenerator (catalog : Catalog) (type : String) (properties : Properties) :
    Except Error Snowflake := do
  (← find catalog.keyGenerators "key generate" type) properties catalog.workers

def auditor (catalog : Catalog) (type : String) (properties : Properties) :
    Except Error Auditor := do
  (← find catalog.auditors "audit" type) properties

def hasPlacement (catalog : Catalog) (type : String) : Bool :=
  catalog.placements.contains (normalize type)

def shown (catalog : Catalog) : String :=
  let types (keys : List String) := "[" ++ ", ".intercalate (keys.map Text.quoted) ++ "]"
  String.join
    ["AlgorithmCatalog \x7b sharding: ", types catalog.placements.keys,
      ", key_generators: ", types catalog.keyGenerators.keys,
      ", auditors: ", types catalog.auditors.keys, " \x7d"]

end Catalog

end Sharding
