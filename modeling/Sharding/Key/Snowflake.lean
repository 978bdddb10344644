import Sharding.Properties

/-!
# Snowflake keys

Keys of 64 bits that a generator draws in increasing order, without asking anyone: from the
highest bit on, a zero, 41 bits of milliseconds since an epoch, 10 bits of a worker id and 12 bits
of a sequence. Within a millisecond the sequence counts up; with a new millisecond it starts again
from an offset that rotates through `0` to a greatest vibration offset.

A draw takes the generator's state and the time on the clock and answers with both as they are
after it. A failed draw changes neither.
-/

set_option autoImplicit false

namespace Sharding

open scoped Word

/-- Milliseconds since the start of 1970. -/
abbrev Clock : Type := Int64

namespace Clock

/-- The clock moved by a number of milliseconds. It wraps around at the ends of the words. -/
def advance (clock : Clock) (millis : Int64) : Clock :=
  clock + millis

/-- The clock after a sleep, which takes one millisecond at least. -/
def sleep (clock : Clock) (millis : Nat) : Clock :=
  clock.advance (Int64.ofNat (max 1 (min millis (2 ^ (63 : Nat) - 1))))

end Clock

/-- Where worker ids come from: nowhere, or from a source that may fail. -/
abbrev WorkerSource : Type := Option (Except Error Nat)

structure Snowflake where
  epoch : Int64
  worker : Nat
  /-- The greatest offset at which the sequence of a new millisecond starts. -/
  maxVibration : Nat
  /-- A clock that is back by this much is not waited for. -/
  tolerance : Int64
  worker_le : worker ≤ 1023
  maxVibration_le : maxVibration ≤ 4095
  deriving DecidableEq, Repr

namespace Snowflake

def type : String := "SNOWFLAKE"

def vibrationKey : String := "max-vibration-offset"

def toleranceKey : String := "max-tolerate-time-difference-milliseconds"

/-- The start of November 2016. -/
def defaultEpoch : Int64 := 1477958400000

def sequences : Nat := 4096

def greatestWorker : Nat := 1023

/-- The worker id that a source gives, zero without a source. -/
def workerId : WorkerSource → Except Error Nat
  | none => .ok 0
  | some source => source

def ofProperties? (properties : Properties) (source : WorkerSource) : Except Error Snowflake := do
  let offset ← properties.intOr type vibrationKey 1
  if vibration : 0 ≤ offset.toInt ∧ offset.toInt ≤ 4095 then
    let tolerance ← properties.intOr type toleranceKey 10
    let worker ← workerId source
    if worker_le : worker ≤ 1023 then
      return { epoch := defaultEpoch, worker, maxVibration := offset.toInt.toNat, tolerance
               worker_le, maxVibration_le := by omega }
    else .error (.algorithmInit type (.workerId worker greatestWorker))
  else .error (.algorithmInit type (.vibration offset))

structure State where
  /-- The millisecond of the last key. -/
  last : Clock := 0
  sequence : Nat := 0
  /-- The offset at which the sequence of the next new millisecond starts. -/
  nextOffset : Nat := 0
  deriving DecidableEq, Repr

structure Draw where
  key : Int64
  state : State
  clock : Clock
  deriving DecidableEq, Repr

def keyOf (generator : Snowflake) (millis : Clock) (sequence : Nat) : Int64 :=
  Int64.ofInt
    ((millis.toInt - generator.epoch.toInt) * 2 ^ (22 : Nat) +
      generator.worker * 2 ^ (12 : Nat) + sequence)

/-- The clock once it is no longer behind the last key. A clock too far behind is not waited
for. -/
def catchUp (generator : Snowflake) (last clock : Clock) : Except Error Clock :=
  if last ≤ clock then .ok clock
  else if generator.tolerance.toInt ≤ last.toInt - clock.toInt then
    .error (.clockMovedBack last clock)
  else .ok last

/-- The state after a key in the last millisecond. If all sequences are used up, the key is one
of the next millisecond. -/
def State.sameMillis (state : State) (now : Clock) : State :=
  if (state.sequence + 1) % sequences = 0 then
    { state with last := now.advance 1, sequence := 0 }
  else { state with last := now, sequence := (state.sequence + 1) % sequences }

def State.newMillis (state : State) (maxVibration : Nat) (now : Clock) : State :=
  { last := now
    sequence := state.nextOffset
    nextOffset := if maxVibration ≤ state.nextOffset then 0 else state.nextOffset + 1 }

def draw (generator : Snowflake) (state : State) (clock : Clock) : Except Error Draw := do
  let now ← generator.catchUp state.last clock
  let next := if now = state.last then state.sameMillis now
    else state.newMillis generator.maxVibration now
  return { key := generator.keyOf next.last next.sequence, state := next, clock := next.last }

end Snowflake

end Sharding
