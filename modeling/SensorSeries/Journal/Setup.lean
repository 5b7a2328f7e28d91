import SensorSeries.Failure
import SensorSeries.Journal

/-!
# Setting up the journal

Entries that weigh less than a threshold are not written. The threshold is given by the name of a
severity or by a number. `lineFormat` and `timeFormat` say how an entry is written as a line.
-/

namespace SensorSeries.Journal

def lineFormat : String :=
  "[%(asctime)s] %(process)s %(levelname)-6s %(name)s: %(funcName)s: %(message)s"

def timeFormat : String := "%Y-%m-%d %H:%M:%S"

/-- All names of thresholds; some have two. -/
def thresholds : List (String × Int) :=
  [("CRITICAL", Severity.critical.weight), ("FATAL", Severity.critical.weight),
   ("ERROR", Severity.error.weight), ("WARN", Severity.warning.weight),
   ("WARNING", Severity.warning.weight), ("INFO", Severity.info.weight),
   ("DEBUG", Severity.debug.weight), ("NOTSET", 0)]

def thresholdOfName (name : String) : Except Failure Int :=
  match thresholds.find? (·.1 == name) with
  | some (_, n) => .ok n
  | none => .error .unknownWord

/-- The threshold that a datum asks for; null leaves it at warnings. A truth value counts as a
number, but is kept as it is. -/
def threshold : Datum → Except Failure Datum
  | .null => .ok (.int Severity.warning.weight)
  | .text s => do return .int (← thresholdOfName s)
  | .int n => .ok (.int n)
  | .bool b => .ok (.bool b)
  | _ => .error .wrongKind

/-- The name of the threshold that is used if none is given. -/
def defaultThreshold : String := "INFO"

end SensorSeries.Journal
