import SensorSeries.Database.Stream
import SensorSeries.Export.CommandLine
import SensorSeries.Journal.Setup
import SensorSeries.Vocabulary

/-!
# Options of an export

What to export from which database, and how. Some options must be there, some have a default, and
two of them may come from a variable instead; an empty variable counts as missing.
-/

namespace SensorSeries

structure ExportOptions where
  dsn : String
  schema : String
  datastreamId : Int
  procedure : String
  observedProperty : String
  observationType : String
  start : Option String
  stop : Option String
  fetchSize : Option Int
  logLevel : String
  deriving Repr

namespace ExportOptions

def names : List String :=
  ["--dsn", "--schema", "--datastream-id", "--procedure", "--observed-property",
   "--observation-type", "--start", "--end", "--fetch-size", "--log-level"]

/-- The value of an option, or of the variable that stands in for it. -/
def fromVariable? (line : CommandLine) (vars : Variables) (name fallback : String) :
    Option String :=
  line.value? name <|> (Settings.lookup? vars fallback).filter (· ≠ "")

def required {α : Type} (name : String) : Option α → Except UsageError α
  | some a => .ok a
  | none => .error (.missingOption name)

/-- The integer that an option is given, if it is given one. -/
def number? (line : CommandLine) (name : String) : Except UsageError (Option Int) :=
  match line.value? name with
  | none => .ok none
  | some s =>
    match Numeral.integer? s with
    | some n => .ok (some n)
    | none => .error (.badNumber name s)

def ofLine (line : CommandLine) (vars : Variables) : Except UsageError ExportOptions := do
  let dsn ← required "--dsn" (fromVariable? line vars "--dsn" "DATABASE_DSN")
  let schema ← required "--schema" (line.value? "--schema")
  let datastreamId ← required "--datastream-id" (← number? line "--datastream-id")
  let fetchSize ← number? line "--fetch-size"
  if let word :: _ := line.surplus then throw (.surplusWord word)
  return {
    dsn, schema, datastreamId, fetchSize
    procedure := (line.value? "--procedure").getD "unknown"
    observedProperty := (line.value? "--observed-property").getD "unknown"
    observationType := (line.value? "--observation-type").getD Vocabulary.measurement
    start := line.value? "--start"
    stop := line.value? "--end"
    logLevel := (fromVariable? line vars "--log-level" "LOG_LEVEL").getD Journal.defaultThreshold }

/-- The observation that describes what is exported. -/
def template (o : ExportOptions) : Observation :=
  .template o.procedure o.observedProperty o.observationType

/-- Which observations are read. -/
def dataStream (o : ExportOptions) (vars : Variables) : Except Failure DataStream :=
  let datum (s : Option String) : Datum := (s.map Datum.text).getD .null
  DataStream.make o.schema (.int o.datastreamId) (datum o.start) (datum o.stop)
    ((o.fetchSize.map Datum.int).getD .null) vars

end ExportOptions

end SensorSeries
