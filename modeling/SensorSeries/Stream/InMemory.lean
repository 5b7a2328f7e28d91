import SensorSeries.Stream.Basic

/-!
# Streams over samples in memory

The source is a list of samples that are there already, and the place in it that has been reached.
Its unit is the first one that a sample has, its time the period that covers all samples, and its
result time the end of that period; how far it has been read makes no difference. Releasing it
empties it.
-/

namespace SensorSeries

structure SampleList where
  samples : List Sample
  position : Nat := 0

namespace SampleList

/-- The sample at the place that has been reached. -/
def fetch : Action SampleList (Option Sample) := do
  let l ← Action.get
  match l.samples[l.position]? with
  | none => return none
  | some s =>
    Action.modify fun l => { l with position := l.position + 1 }
    return some s

/-- The first unit that a sample has. A sample without a value cannot be asked. -/
def firstUnit : List Sample → Except Failure UnitOfMeasure
  | [] => .ok .missing
  | s :: rest =>
    match s.value with
    | none => .error .noAttribute
    | some v => do
      let unit ← v.unit
      if unit.isFilled then return unit else firstUnit rest

/-- The times of a list of samples, if there are any. -/
def timesOf (samples : List Sample) : Except Failure (Option Times) := do
  if samples.isEmpty then return none
  let period ← Period.empty.extendAll (samples.map (·.time))
  return some { phenomenon := some (.period period), result := some (.ofTimestamp period.stop) }

def name (template : Observation) : String :=
  "ListStreamingValue(" ++ optionLiteral template.identifier ++ ")"

def source (template : Observation) : Source SampleList Sample where
  name := name template
  fetch := fetch
  unit := do Action.lift (firstUnit (← Action.get).samples)
  times := do Action.lift (timesOf (← Action.get).samples)
  release := Action.modify fun _ => ⟨[], 0⟩
  convert s := .done (.ok s)
  pending l := l.samples.length - l.position

/-- A fresh stream over samples. -/
def stream (template : Observation) (samples : List Sample) (options : List (String × Datum)) :
    Stream SampleList where
  backing := { samples }
  template
  options

end SampleList

end SensorSeries
