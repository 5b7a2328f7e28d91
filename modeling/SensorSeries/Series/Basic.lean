import SensorSeries.Time.Period
import SensorSeries.Value.Basic

/-!
# Samples and series

A sample is a value and the time it was found for. A series is a list of samples in the order they
were added, with a unit of its own. The time of a series is the period that covers all its samples.
-/

namespace SensorSeries

structure Sample where
  time : Option Time
  value : Option Value
  deriving Repr

namespace Sample

/-- The timestamp that the sample refers to. -/
def timestamp (s : Sample) : Except Failure (Option Timestamp) := Time.timestamp s.time

def same (a b : Sample) : Bool :=
  Time.sameOption a.time b.time && sameOption Value.same a.value b.value

def literal (s : Sample) : String :=
  "TimeValuePair(phenomenon_time=" ++ Time.optionLiteral s.time ++ ", value=" ++
    Value.optionLiteral s.value ++ ")"

end Sample

structure Series where
  unit : UnitOfMeasure
  samples : List Sample
  deriving Repr

namespace Series

def empty : Series := ⟨.missing, []⟩

def add (s : Series) (sample : Sample) : Series := { s with samples := s.samples ++ [sample] }

def addAll (s : Series) (samples : List Sample) : Series :=
  { s with samples := s.samples ++ samples }

def isSetValue (s : Series) : Bool := !s.samples.isEmpty

def isSetUnit (s : Series) : Bool := s.unit.isFilled

/-- The period that covers all samples, if there are any. -/
def phenomenonTime (s : Series) : Except Failure (Option Period) :=
  if s.samples.isEmpty then .ok none
  else (Period.empty.extendAll (s.samples.map (·.time))).map some

def sameSamples : List Sample → List Sample → Bool
  | [], [] => true
  | a :: as, b :: bs => a.same b && sameSamples as bs
  | _, _ => false

def same (a b : Series) : Bool := a.unit == b.unit && sameSamples a.samples b.samples

def literal (s : Series) : String :=
  "TVPValue(unit=" ++ s.unit.literal ++ ", value=[" ++
    ", ".intercalate (s.samples.map (·.literal)) ++ "])"

end Series

end SensorSeries
