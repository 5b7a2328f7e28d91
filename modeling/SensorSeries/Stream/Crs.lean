import SensorSeries.Failure
import SensorSeries.Number.Numeral
import SensorSeries.Vocabulary

/-!
# Reference systems

A reference system is asked for by its number, given as an integer or as an integer numeral between
blanks.
-/

namespace SensorSeries.Crs

/-- Why an option names no reference system. -/
def malformed (option : Datum) (reason : String) : Failure :=
  .badParameter (.text Vocabulary.crs) option (.text reason)

/-- The number of the reference system that an option asks for. -/
def read (option : Datum) : Except Failure Int :=
  match option with
  | .int n => .ok n
  | .text s =>
    match Numeral.integer? (Text.strip s) with
    | some n => .ok n
    | none => .error (malformed option "not a numeric string")
  | d => .error (malformed option ("unsupported type " ++ d.kindName))

end SensorSeries.Crs
