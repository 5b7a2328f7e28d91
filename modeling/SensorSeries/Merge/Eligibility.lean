import SensorSeries.Observation.Basic

/-!
# Which observations can be merged

Two observations can be merged when they have one constellation, its type allows it, and their merge
indicators are both missing or the same. `refusal` names the first condition that fails. It fails
itself if both observations have one and the same datum for a constellation.
-/

namespace SensorSeries.Observation

/-- Whether the merge indicators keep two observations apart. -/
def indicatorRefusal (a b : Observation) : Option Refusal :=
  match a.isSetMergeIndicator, b.isSetMergeIndicator with
  | true, true => if a.mergeIndicator = b.mergeIndicator then none else some .indicatorsDiffer
  | false, false => none
  | _, _ => some .indicatorOnOneSide

/-- Why `b` cannot be merged into `a`, if it cannot. -/
def refusal (a b : Observation) : Except Failure (Option Refusal) :=
  match a.constellation, b.constellation with
  | some s, some t =>
    if !s.same t then .ok (some .constellationsDiffer)
    else do
      let c ← s.asConstellation
      return if c.isMergeable then indicatorRefusal a b
        else some (.typeNotMergeable c.observationType)
  | _, _ => .ok (some .constellationMissing)

def canMerge (a b : Observation) : Except Failure Bool := do return (← refusal a b).isNone

end SensorSeries.Observation
