import SensorSeries.Calendar.Timestamp
import SensorSeries.Failure

/-!
# Indexes of timestamps

What indexes a column by timestamps is left open: an `Indexing` makes it of timestamps, some of them
missing, and lists the timestamps that it holds. A `TimeIndex` is one that can be run. One clock
shows all of its timestamps: they have the same distance from universal time or are of the same
place, and if one of them counts nanoseconds, all of them fit such a count. A `TimeIndex` without
timestamps may still have a clock.
-/

namespace SensorSeries

structure Indexing (ι : Type) where
  make : List (Option Timestamp) → Except Failure ι
  timestamps : ι → List (Option Timestamp)

/-- What the timestamps at the beginning of an index have in common. -/
structure CommonClock where
  /-- The clock that shows them, once there is a timestamp. -/
  clock : Option (Option Timestamp.Clock) := none
  /-- Whether one of them counts nanoseconds. -/
  fine : Bool := false

namespace CommonClock

/-- A clock that counts nanoseconds must be able to show a timestamp, and universal time with it. -/
def check (c : CommonClock) (t : Timestamp) : Except Failure Unit :=
  if !c.fine || t.fitsNanoseconds then .ok ()
  else if Timestamp.isNanosecondCount t.shown then .error (.badTimestamp false)
  else .error .beyondNanoseconds

/-- The clock of a beginning and the timestamp after it. -/
def add (c : CommonClock) (t : Timestamp) : Except Failure CommonClock := do
  let c : CommonClock := { clock := some (c.clock.getD t.clock), fine := c.fine || t.fine }
  if c.clock ≠ some t.clock then throw .mixedOffsets
  c.check t
  return c

/-- The clock that shows all timestamps of a list. One that turns out to count nanoseconds must show
those before it as well. -/
def ofTimestamps (ts : List Timestamp) : Except Failure CommonClock := do
  let c ← ts.foldlM add {}
  ts.forM c.check
  return c

end CommonClock

structure TimeIndex where
  clock : Option Timestamp.Clock
  timestamps : List (Option Timestamp)
  shown : ∃ c, CommonClock.ofTimestamps (timestamps.filterMap id) = .ok c ∧
    ∀ z ∈ c.clock, z = clock

namespace TimeIndex

/-- The index of some timestamps has the clock that shows them. Where all are missing, it is
naive. -/
def ofClock {ts : List (Option Timestamp)} {c : CommonClock}
    (h : CommonClock.ofTimestamps (ts.filterMap id) = .ok c) : TimeIndex :=
  ⟨c.clock.join, ts, c, h, fun _ hz => (congrArg Option.join hz).symm⟩

def ofTimestamps (ts : List (Option Timestamp)) : Except Failure TimeIndex :=
  match h : CommonClock.ofTimestamps (ts.filterMap id) with
  | .error e => .error e
  | .ok _ => .ok (ofClock h)

end TimeIndex

def Indexing.timeIndex : Indexing TimeIndex := ⟨TimeIndex.ofTimestamps, TimeIndex.timestamps⟩

end SensorSeries
