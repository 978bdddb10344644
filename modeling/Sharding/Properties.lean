import Sharding.Document
import Sharding.Error.Basic
import Sharding.NameMap

/-!
# Properties

The settings of an algorithm: texts under keys. Rule files may write a setting as any scalar; it
is kept as its text.
-/

set_option autoImplicit false

namespace Sharding

abbrev Properties : Type := NameMap String

namespace Properties

/-- The text of a scalar. Numbers are written in positional notation. -/
def scalarText? : Document → Option String
  | .bool value => some (if value then "true" else "false")
  | .number value => some value.positional
  | .text content => some content
  | _ => none

def ofDocument? : Document → Option Properties
  | .record fields => do
    let entries ← fields.mapM fun (key, value) => do return (key, ← scalarText? value)
    return NameMap.ofList entries
  | _ => none

def toDocument (properties : Properties) : Document :=
  .record (properties.entries.map fun (key, value) => (key, .text value))

/-- A property that is neither absent nor blank, without blank margins. -/
def require (properties : Properties) (type key : String) : Except Error String :=
  match (properties.get? key).map Text.trim with
  | some "" => .error (.algorithmInit type (.missing key))
  | some value => .ok value
  | none => .error (.algorithmInit type (.missing key))

/-- A property as an integer; `raw` is the text that a message about it shows. -/
def readInt (type key raw : String) : Except Error Int64 :=
  match Word.parse (Text.trim raw) with
  | .ok value => .ok value
  | .error fault => .error (.algorithmInit type (.notInteger key raw fault))

def requireInt (properties : Properties) (type key : String) : Except Error Int64 := do
  readInt type key (← properties.require type key)

/-- An integer, or the given one if the property is absent or blank. -/
def intOr (properties : Properties) (type key : String) (default : Int64) : Except Error Int64 :=
  match properties.get? key with
  | some raw => if Text.isBlankText raw then .ok default else readInt type key raw
  | none => .ok default

end Properties

end Sharding
