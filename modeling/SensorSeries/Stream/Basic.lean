import SensorSeries.Observation.Basic
import SensorSeries.Stream.Memo

/-!
# Streams

A stream gives the samples of an observation one after the other, as they are asked for. It reads
entities from a source, which also knows the unit and the times of the whole; each of these is asked
for at most once. A stream ends when its source has no more entities or when it is closed; closing
releases the source, once. Whatever goes wrong in the source reaches the reader of the stream as a
failure of the stream, with the cause in it.
-/

namespace SensorSeries

/-- The three times of an observation. -/
structure Times where
  phenomenon : Option Time := none
  result : Option Instant := none
  valid : Option Time := none
  deriving Repr

/-- How an entity becomes a sample: at once, or with the unit of the stream. -/
inductive Conversion where
  | done (s : Except Failure Sample)
  | withUnit (f : UnitOfMeasure → Except Failure Sample)

/-- What a stream reads from. -/
structure Source (σ ε : Type) where
  /-- What the stream is called in messages. -/
  name : String
  /-- The next entity, or nothing at the end. -/
  fetch : Action σ (Option ε)
  unit : Action σ UnitOfMeasure
  times : Action σ (Option Times)
  release : Action σ Unit
  convert : ε → Conversion
  /-- A bound on the number of entities still to come. -/
  pending : σ → Nat

structure Stream (σ : Type) where
  backing : σ
  template : Observation
  /-- What the reader has asked for besides the samples. -/
  options : List (String × Datum) := []
  times : Memo (Option Times) := {}
  unit : Memo UnitOfMeasure := {}
  exhausted : Bool := false
  closed : Bool := false

namespace Stream

variable {σ ε α : Type}

/-- The part of the library that writes the journal of streams. -/
def journalSource : String := "streaming"

/-- Lets an action of the source act on the stream. -/
def onBacking (x : Action σ α) : Action (Stream σ) α :=
  Action.zoom (·.backing) (fun b s => { s with backing := b }) x

/-- Makes a failure of the source a failure of the stream, unless it is one already. -/
def guarded (src : Source σ ε) (stage : Stage) (x : Action (Stream σ) α) : Action (Stream σ) α :=
  x.orElse fun e => Action.fail (if e.isQuery then e else .stream src.name stage e)

/-! ## Life -/

def close (src : Source σ ε) : Action (Stream σ) Unit := do
  if (← Action.get).closed then return
  Action.modify fun s => { s with closed := true, exhausted := true }
  onBacking src.release
  Action.note (.debug journalSource ("closed " ++ src.name))

/-- The next entity, or nothing if the stream is at its end. -/
def nextEntity (src : Source σ ε) : Action (Stream σ) (Option ε) := do
  if (← Action.get).exhausted then return none
  match ← guarded src .fetching (onBacking src.fetch) with
  | some e => return some e
  | none =>
    Action.modify fun s => { s with exhausted := true }
    Action.note (.debug journalSource (src.name ++ " is exhausted"))
    return none

/-! ## Unit and times -/

/-- Asks the source for the unit. -/
def queryUnit (src : Source σ ε) : Action (Stream σ) UnitOfMeasure := do
  Action.note (.debug journalSource (src.name ++ " querying unit"))
  guarded src .queryingUnit (onBacking src.unit)

/-- Asks the source for the times. -/
def queryTimes (src : Source σ ε) : Action (Stream σ) (Option Times) := do
  Action.note (.debug journalSource (src.name ++ " querying times"))
  guarded src .queryingTimes (onBacking src.times)

def readUnit (src : Source σ ε) : Action (Stream σ) UnitOfMeasure :=
  Action.zoom (fun s => (s.unit, s)) (fun (m, s) _ => { s with unit := m })
    (Memo.get (queryUnit src))

def setUnit (unit : UnitOfMeasure) : Action (Stream σ) Unit :=
  Action.modify fun s => { s with unit := .ofValue unit }

def isSetUnit (src : Source σ ε) : Action (Stream σ) Bool := do
  return !(← readUnit src).isMissing

/-- The times of the whole; a source that knows of none has none. -/
def readTimes (src : Source σ ε) : Action (Stream σ) Times := do
  let known ← Action.zoom (fun s => (s.times, s)) (fun (m, s) _ => { s with times := m })
    (Memo.get (queryTimes src))
  return known.getD {}

def isSetPhenomenonTime (src : Source σ ε) : Action (Stream σ) Bool := do
  Action.lift (Time.isSetOption (← readTimes src).phenomenon)

def isSetResultTime (src : Source σ ε) : Action (Stream σ) Bool := do
  return (← readTimes src).result.any (·.isSet)

def isSetValidTime (src : Source σ ε) : Action (Stream σ) Bool := do
  Action.lift (Time.isSetOption (← readTimes src).valid)

/-! ## Samples -/

/-- Makes a sample of an entity. -/
def convert (src : Source σ ε) (e : ε) : Action (Stream σ) Sample :=
  match src.convert e with
  | .done s => Action.lift s
  | .withUnit f => do Action.lift (f (← readUnit src))

/-- The next sample, or nothing if the stream is at its end. -/
def nextValue (src : Source σ ε) : Action (Stream σ) (Option Sample) := do
  match ← nextEntity src with
  | none => return none
  | some e => return some (← guarded src .converting (convert src e))

/-- At most so many of the next samples. -/
def take (src : Source σ ε) : Nat → Action (Stream σ) (List Sample)
  | 0 => return []
  | n + 1 => do
    match ← nextValue src with
    | none => return []
    | some s => return s :: (← take src n)

/-- All samples that are left. -/
def drain (src : Source σ ε) : Action (Stream σ) (List Sample) := do
  take src (src.pending (← Action.get).backing + 1)

/-- Closes the stream when an action on it is over, however it ends; a failure to close comes before
one of the action. -/
def closingAfter (src : Source σ ε) (x : Action (Stream σ) α) : Action (Stream σ) α := do
  let a ← x.attempt
  close src
  Action.lift a

end Stream

end SensorSeries
