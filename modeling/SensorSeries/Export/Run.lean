import SensorSeries.Export.Options
import SensorSeries.Export.Table
import SensorSeries.Stream.Reprojection

/-!
# Exports

An export reads all observations of one data stream and writes them as a table. It follows a
command line: help comes before every other wish, a line that cannot be followed contacts nobody,
and neither does an unknown severity for the journal. The stream is closed before the table is
written.
-/

namespace SensorSeries

namespace Export

/-- How an export ends. -/
inductive Ending where
  | help
  | refused (e : UsageError)
  | failed (e : Failure)
  | written (table : String)
  deriving Repr

/-- Failures exit with one, command lines that cannot be followed with two. -/
def Ending.exitCode : Ending → Nat
  | .help => 0
  | .refused _ => 2
  | .failed _ => 1
  | .written _ => 0

def journalSource : String := "export-observations"

variable {κ : Type}

/-- An export that is over. -/
structure Report (κ : Type) where
  ending : Ending
  /-- The databases that were contacted. -/
  contacted : List String := []
  /-- The connection as it was left. -/
  connection : Option κ := none
  /-- The weight from which on entries of the journal are written. -/
  threshold : Int := 0
  journal : List JournalEntry := []

/-- Lets an action on a fresh stream over a database act on the connection. -/
def onFreshStream {α : Type} (template : Observation) (x : Action (Stream (Cursor κ)) α) :
    Action κ α :=
  Action.zoom (fun connection => { backing := { connection }, template })
    (fun s _ => s.backing.connection) x

def finished (o : ExportOptions) (s : Series) : JournalEntry :=
  .info journalSource ("exporting " ++ toString s.samples.length ++ " values of datastream " ++
    toString o.datastreamId ++ " (unit: " ++ s.unit.symbol.display ++ ")")

/-- The table of a data stream. -/
def table (conn : Connection κ) (o : ExportOptions) (vars : Variables) : Action κ String := do
  let source := Cursor.source conn (← Action.lift (o.dataStream vars))
  let observation ← onFreshStream o.template
    (Stream.closingAfter source (Stream.mergeObservation source none))
  match observation.result with
  | some (.multi (some series) _) =>
    let column ← Action.lift (series.toColumn .timeIndex)
    Action.note (finished o series)
    return column.table "phenomenon_time" "value"
  | _ => Action.fail .noAttribute

/-- Contacts the database and exports. -/
def perform (conn : Connection κ) (connect : String → Except Failure κ) (o : ExportOptions)
    (vars : Variables) : Report κ :=
  match Journal.thresholdOfName o.logLevel with
  | .error e => { ending := .failed e }
  | .ok threshold =>
    match connect o.dsn with
    | .error e => { ending := .failed e, contacted := [o.dsn], threshold }
    | .ok k =>
      let outcome := (table conn o vars).run k
      { ending := match outcome.answer with
          | .ok table => .written table
          | .error e => .failed e
        contacted := [o.dsn], connection := some outcome.state, threshold
        journal := outcome.journal }

/-- Follows a command line. -/
def run (conn : Connection κ) (connect : String → Except Failure κ) (vars : Variables)
    (words : List String) : Report κ :=
  match CommandLine.read ExportOptions.names words with
  | .error e => { ending := .refused e }
  | .ok line =>
    if line.helpAsked then { ending := .help }
    else
      match ExportOptions.ofLine line vars with
      | .error e => { ending := .refused e }
      | .ok o => perform conn connect o vars

end Export

end SensorSeries
