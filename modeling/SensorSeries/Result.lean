import SensorSeries.Series.Basic

/-!
# Results

The result of an observation is a single sample or a series of samples. A series may carry an
explicit time; without one its time is that of its samples. `toSeries` gives the form in which
results are merged.
-/

namespace SensorSeries

inductive Result where
  | single (sample : Sample)
  | multi (series : Option Series) (explicitTime : Option Time)
  | other (d : Datum)
  deriving Repr

namespace Result

def ofSeries (s : Series) : Result := .multi (some s) none

def unit : Result → Except Failure UnitOfMeasure
  | .single ⟨_, none⟩ => .ok .missing
  | .single ⟨_, some v⟩ => v.unit
  | .multi series _ => .ok ((series.map (·.unit)).getD .missing)
  | .other _ => .error .noAttribute

def phenomenonTime : Result → Except Failure (Option Time)
  | .single sample => .ok sample.time
  | .multi _ (some t) => .ok (some t)
  | .multi none none => .ok none
  | .multi (some series) none => do return (← series.phenomenonTime).map .period
  | .other _ => .error .noAttribute

def setPhenomenonTime (t : Option Time) : Result → Result
  | .single sample => .single { sample with time := t }
  | .multi series _ => .multi series t
  | .other d => .other d

def isSetValue : Result → Except Failure Bool
  | .single sample => .ok sample.value.isSome
  | .multi series _ => .ok (series.any (·.isSetValue))
  | .other _ => .error .noAttribute

def isSetPhenomenonTime (r : Result) : Except Failure Bool := do
  Time.isSetOption (← r.phenomenonTime)

def same : Result → Result → Bool
  | .single a, .single b => a.same b
  | .multi s _, .multi t _ => sameOption Series.same s t
  | .other a, .other b => a == b
  | _, _ => false

def literal : Result → String
  | .single sample =>
    "SingleObservationValue(" ++ Time.optionLiteral sample.time ++ ", " ++
      Value.optionLiteral sample.value ++ ")"
  | .multi series _ =>
    "MultiObservationValue(" ++ ((series.map (·.literal)).getD "None") ++ ")"
  | .other d => d.literal

def optionLiteral (r : Option Result) : String := (r.map literal).getD "None"

/-- The samples of a result as a series of their own, without explicit time. -/
def toSeries : Option Result → Except Failure Series
  | some (.single sample) => do return ⟨← unit (.single sample), [sample]⟩
  | some (.multi series _) => .ok (series.getD .empty)
  | some (.other d) => .error (.unsupported .observationValue d.kindName)
  | none => .error (.unsupported .observationValue Datum.null.kindName)

end Result

end SensorSeries
