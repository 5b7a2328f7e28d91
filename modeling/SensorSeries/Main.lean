import SensorSeries.Export.Run

/-!
# The command line

Exports the observations of a data stream. This layer reads the words and variables of the command
and writes what the export reports. It brings no client of a database server along, so that a line
which asks for an export is followed up to the connection, which then fails.
-/

namespace SensorSeries.Export

/-- A connection to no server: it has no state, hence nothing can be asked of it. -/
def noServer : Connection Empty where
  openCursor := nofun
  execute _ _ := nofun
  fetchMany _ _ := nofun
  closeCursor _ := nofun
  openReader := nofun
  query _ := nofun
  readRow := nofun
  pending := nofun

def usage : String :=
  "Usage: export-observations [OPTIONS]\n\n" ++
  "  Print the observations of one datastream as CSV time series.\n\nOptions:\n" ++
  String.join (ExportOptions.names.map fun name => "  " ++ name ++ " VALUE\n") ++
  "  -h, --help\n"

/-- The variables that an export may read. -/
def variableNames : List String := ["DATABASE_DSN", "LOG_LEVEL", "STREAMING_FETCH_SIZE"]

def readVariables : IO Variables :=
  variableNames.filterMapM fun name => do
    return (← IO.getEnv name).map fun value => (name, value)

def writeReport {κ : Type} (report : Report κ) : IO Unit := do
  for e in report.journal do
    if report.threshold ≤ e.severity.weight then
      IO.eprintln (e.severity.name ++ " " ++ e.source ++ ": " ++ e.text)
  match report.ending with
  | .help => IO.print usage
  | .refused e => IO.eprintln ("Error: " ++ e.message)
  | .failed e => IO.eprintln ("Error: " ++ e.message.getD "the export failed")
  | .written table => IO.print table

end SensorSeries.Export

open SensorSeries in
def main (words : List String) : IO UInt32 := do
  let vars ← Export.readVariables
  let report := Export.run Export.noServer (fun _ => .error (.outage .connection)) vars words
  Export.writeReport report
  return report.ending.exitCode.toUInt32
