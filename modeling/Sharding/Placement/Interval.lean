import Sharding.Number.Binary64
import Sharding.Placement.Basic
import Sharding.Placement.Suffix
import Sharding.Properties

/-!
# Placements by time

`AUTO_INTERVAL` cuts the time from a lower to an upper datetime into buckets of equal length.
The bucket of a datetime is the number of bucket lengths since the lower end, first rounded to
two decimal places and then rounded up. The quotient is taken in double precision, so a datetime
shortly after a bucket's start may still count to the bucket before.
-/

set_option autoImplicit false

namespace Sharding

open Calendar (DateTime)
open Number (Binary64)

/-- The ends of the buckets and their length in seconds. -/
structure Interval where
  lower : DateTime
  upper : DateTime
  seconds : Int64
  seconds_pos : 0 < seconds.toInt
  ordered : lower ≤ upper

namespace Interval

def type : String := "AUTO_INTERVAL"

def lowerKey : String := "datetime-lower"

def upperKey : String := "datetime-upper"

def secondsKey : String := "sharding-seconds"

def ofEnds? (lower upper : DateTime) (seconds : Int64) : Except InitFault Interval :=
  if seconds_pos : 0 < seconds.toInt then
    if ordered : lower ≤ upper then .ok { lower, upper, seconds, seconds_pos, ordered }
    else .error (.invertedEnds upperKey lowerKey)
  else .error (.notPositive secondsKey seconds)

def requireDateTime (properties : Properties) (key : String) : Except Error DateTime := do
  let raw ← properties.require type key
  match DateTime.ofText? raw with
  | some moment => return moment
  | none => .error (.algorithmInit type (.notDateTime key raw))

def ofProperties? (properties : Properties) : Except Error Interval := do
  let lower ← requireDateTime properties lowerKey
  let upper ← requireDateTime properties upperKey
  let seconds ← properties.requireInt type secondsKey
  match ofEnds? lower upper seconds with
  | .ok result => return result
  | .error fault => .error (.algorithmInit type fault)

/-- The whole seconds between the ends. -/
def span (interval : Interval) : Nat :=
  (DateTime.secondsBetween interval.lower interval.upper).toNat

/-- The number of buckets: one for every begun length between the ends, one before and one
after. -/
def bucketCount (interval : Interval) : Nat :=
  let length := interval.seconds.toInt.toNat
  interval.span / length + (if interval.span % length = 0 then 0 else 1) + 2

/-- The quotient of two whole numbers in double precision, as a number of hundredths. -/
def quotientHundredths (elapsed length : Nat) : Nat :=
  ((Binary64.ofNat elapsed).div (Binary64.ofNat length)).hundredths

def bucketOf (interval : Interval) (moment : DateTime) : Nat :=
  let elapsed := (DateTime.secondsBetween interval.lower moment).toNat
  let hundredths := quotientHundredths elapsed interval.seconds.toInt.toNat
  min ((hundredths + 99) / 100) (interval.bucketCount - 1)

def bucketOfValue (interval : Interval) (value : Value) : Except Error Nat :=
  match value.toDateTime? with
  | some moment => .ok (interval.bucketOf moment)
  | none => .error (.selection type (.notDateTime value))

def selectEqual (interval : Interval) (candidates : List String) (_column : String)
    (value : Value) : Except Error (Option String) := do
  return Suffix.find? candidates (← interval.bucketOfValue value)

/-- The bucket of the value at an end, or the given one at an open end. -/
def endBucket (interval : Interval) (bound : Bound) (default : Nat) : Except Error Nat :=
  match bound.endpoint? with
  | some value => interval.bucketOfValue value
  | none => .ok default

def selectWithin (interval : Interval) (candidates : List String) (_column : String)
    (range : ValueRange) : Except Error (List String) := do
  let first ← interval.endBucket range.lower 0
  let last ← interval.endBucket range.upper (interval.bucketCount - 1)
  return Suffix.findAll candidates first last

def placement (interval : Interval) : StandardPlacement where
  type := type
  selectEqual := interval.selectEqual
  selectWithin := interval.selectWithin
  tableCount := some interval.bucketCount

end Interval

end Sharding
