import SensorSeries.Calendar.Parts
import SensorSeries.Calendar.YearLast

/-!
# Reading timestamps

A text is read in the usual order if it can be and if what it says is possible, else as a day with
the year last, else part by part. A few words, and the empty text, stand for a missing timestamp.
-/

namespace SensorSeries.Timestamp

/-- Words for a missing timestamp. -/
def missingWords : List String := ["", "NaT", "nat", "NAT", "nan", "NaN", "NAN"]

/-- Reads a timestamp; the words for a missing one give `none`. -/
def read (s : String) : Except Fault (Option Timestamp) :=
  if missingWords.contains s then .ok none
  else
    match (Draft.ofText? s.toList).filter (·.isPossible) with
    | some d => d.toTimestamp.map some
    | none =>
      match YearLast.ofText? s.toList with
      | some d => d.toTimestamp.map some
      | none => (Parts.ofText s.toList).map some

end SensorSeries.Timestamp
