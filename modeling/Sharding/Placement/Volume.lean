import Sharding.Placement.Basic
import Sharding.Placement.Suffix
import Sharding.Properties

/-!
# Placements by volume

`VOLUME_RANGE` cuts the integers from a lower to an upper end into partitions of equal volume, of
which the last may be smaller. Partition 0 holds the integers below the lower end, the partitions
from 1 on those in between, and one more partition those from the upper end on.
-/

set_option autoImplicit false

namespace Sharding

/-- The ends and the volume of the partitions. The upper end is beyond the range. -/
structure Volume where
  lower : Int64
  upper : Int64
  volume : Int64
  volume_pos : 0 < volume.toInt
  fits : Word.Fits (upper.toInt - lower.toInt)
  volume_le : volume.toInt ≤ upper.toInt - lower.toInt

namespace Volume

def type : String := "VOLUME_RANGE"

def lowerKey : String := "range-lower"

def upperKey : String := "range-upper"

def volumeKey : String := "sharding-volume"

/-- The partitions between two ends, or why there are none. -/
def ofEnds? (lower upper volume : Int64) : Except InitFault Volume :=
  if volume_pos : 0 < volume.toInt then
    if fits : Word.Fits (upper.toInt - lower.toInt) then
      if volume_le : volume.toInt ≤ upper.toInt - lower.toInt then
        .ok { lower, upper, volume, volume_pos, fits, volume_le }
      else .error .shortRange
    else .error .wideRange
  else .error (.notPositive volumeKey volume)

def ofProperties? (properties : Properties) : Except Error Volume := do
  let lower ← properties.requireInt type lowerKey
  let upper ← properties.requireInt type upperKey
  let volume ← properties.requireInt type volumeKey
  match ofEnds? lower upper volume with
  | .ok result => return result
  | .error fault => .error (.algorithmInit type fault)

def span (v : Volume) : Int :=
  v.upper.toInt - v.lower.toInt

def partitions (v : Volume) : Nat :=
  (v.span / v.volume.toInt + if v.span % v.volume.toInt = 0 then 0 else 1).toNat

def partitionOf (v : Volume) (n : Int64) : Nat :=
  if n < v.lower then 0
  else if v.upper ≤ n then v.partitions + 1
  else ((n.toInt - v.lower.toInt) / v.volume.toInt).toNat + 1

def selectEqual (v : Volume) (candidates : List String) (_column : String) (value : Value) :
    Except Error (Option String) :=
  match value.toInt? with
  | some n => .ok (Suffix.find? candidates (v.partitionOf n))
  | none => .error (.selection type (.notInteger value))

def selectWithin (v : Volume) (candidates : List String) (_column : String) (range : ValueRange) :
    Except Error (List String) :=
  match range.integerBounds? with
  | none => .error (.selection type (.notIntegerRange range))
  | some (lower, upper) =>
    let inverted := match lower, upper with
      | some lower, some upper => decide (upper < lower)
      | _, _ => false
    if inverted then .ok []
    else
      let first := (lower.map v.partitionOf).getD 0
      let last := (upper.map v.partitionOf).getD (v.partitions + 1)
      .ok (Suffix.findAll candidates first last)

def placement (v : Volume) : StandardPlacement where
  type := type
  selectEqual := v.selectEqual
  selectWithin := v.selectWithin
  tableCount := some (v.partitions + 2)

end Volume

end Sharding
