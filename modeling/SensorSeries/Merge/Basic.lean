import SensorSeries.Merge.Eligibility

/-!
# Merging observations

Merging puts the samples of one observation behind those of another and takes the later of the two
result times; all else comes from the first. `mergeAll` merges every observation of a list into the
first group before it that accepts it. A group that has been merged once is extended in place, which
gives what merging would give.
-/

namespace SensorSeries

namespace Series

/-- Takes over a unit if the series has none. -/
def adoptUnit (s : Series) (unit : UnitOfMeasure) : Series :=
  if !s.isSetUnit && unit.isFilled then { s with unit } else s

/-- Takes over the unit of a result if the series has none; only then the result is asked. -/
def adoptUnitOf (s : Series) (r : Result) : Except Failure Series :=
  if s.isSetUnit then .ok s else do return s.adoptUnit (← r.unit)

/-- Puts the samples of a result behind those of a series. The placeholder of a template is no
sample, but its unit counts. -/
def append (s : Series) : Option Result → Except Failure Series
  | none => .ok s
  | some (.single sample) =>
    let grown := if sample.value.any (·.isNil) then s else s.add sample
    grown.adoptUnitOf (.single sample)
  | some (.multi series time) =>
    let grown := match series with
      | some t => s.addAll t.samples
      | none => s
    grown.adoptUnitOf (.multi series time)
  | some (.other d) => .error (.unsupported .observationValue d.kindName)

/-- The series that merging starts with: the samples of a result, none for a missing one or for the
placeholder of a template. -/
def startingWith : Option Result → Except Failure Series
  | none => .ok .empty
  | some (.single ⟨_, some (.nil unit)⟩) => .ok ⟨unit, []⟩
  | r => Result.toSeries r

end Series

/-- All samples of `a`, then all samples of `b`. -/
def Series.merge (a b : Option Result) : Except Failure Series := do
  (← Series.startingWith a).append b

/-- The later of two result times, the first if neither is later; an unset one does not count. -/
def Instant.latest (a b : Option Instant) : Except Failure (Option Instant) :=
  match a, b with
  | some s, some t =>
    if s.isSet && t.isSet then do return if ← s.isBefore t then b else a
    else .ok (if !s.isSet && t.isSet then b else a)
  | none, some t => .ok (if t.isSet then b else a)
  | _, none => .ok a

namespace Observation

/-- Puts the samples of a bare result behind those of an observation. -/
def mergeResult (o : Observation) (r : Option Result) : Except Failure Observation := do
  return { o with result := some (.ofSeries (← Series.merge o.result r)) }

/-- Merges `b` into `a`, whether or not that is allowed. -/
def join (a b : Observation) : Except Failure Observation := do
  let series ← Series.merge a.result b.result
  let resultTime ← Instant.latest a.resultTime b.resultTime
  return { a with result := some (.ofSeries series), resultTime }

def merge (a b : Observation) : Except Failure Observation := do
  match ← refusal a b with
  | some reason => throw (.notMergeable reason)
  | none => join a b

/-- Extends the series of an observation that has been merged before. -/
def extend (a b : Observation) : Except Failure Observation :=
  match a.result with
  | some (.multi (some series) time) => do
    let series ← series.append b.result
    let resultTime ← Instant.latest a.resultTime b.resultTime
    return { a with result := some (.multi (some series) time), resultTime }
  | _ => .error .noAttribute

end Observation

/-- Observations that have been merged into one. -/
structure Group where
  /-- The place in the list of the observation that began the group. -/
  first : Nat
  observation : Observation
  /-- Whether a second observation has come to it. -/
  grown : Bool
  deriving Repr

namespace Group

def extend (g : Group) (o : Observation) : Except Failure Group := do
  let observation ← if g.grown then g.observation.extend o else g.observation.merge o
  return { g with observation, grown := true }

/-- Puts an observation into the first group that accepts it, or into a new one. -/
def place (o : Observation) (first : Nat) : List Group → Except Failure (List Group)
  | [] => .ok [⟨first, o, false⟩]
  | g :: rest => do
    if ← g.observation.canMerge o then return (← g.extend o) :: rest
    return g :: (← place o first rest)

/-- The groups of a list of observations, in order of their first members. -/
def ofList (os : List Observation) : Except Failure (List Group) :=
  os.zipIdx.foldlM (fun groups (o, i) => place o i groups) []

end Group

def Observation.mergeAll (os : List Observation) : Except Failure (List Observation) := do
  return (← Group.ofList os).map (·.observation)

end SensorSeries
