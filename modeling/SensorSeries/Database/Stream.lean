import SensorSeries.Database.Connection
import SensorSeries.Settings
import SensorSeries.Stream.Basic

/-!
# Streams over a database

The source is a server cursor on the observations of one data stream, in the order of their time.
Rows come in batches and wait in a buffer. The cursor is opened when the first row is asked for;
if its query fails it is closed at once, and the next reader tries again. Releasing the source
closes the cursor; a failure of the database in doing so is written to the journal and goes no
further.
-/

namespace SensorSeries

/-- Which observations a stream reads, and how. -/
structure DataStream where
  schema : String
  id : Datum
  start : Datum
  stop : Datum
  /-- How many rows make a batch. -/
  fetchSize : Datum
  deriving Repr

namespace DataStream

/-- The default batch. -/
def defaultFetchSize : Int := 1000

/-- Fills in what is missing: bounds that exclude nothing, and a batch size from the settings. -/
def make (schema : String) (id start stop fetchSize : Datum) (vars : Variables) :
    Except Failure DataStream := do
  let fetchSize ← match fetchSize with
    | .null =>
      Settings.get vars "STREAMING_FETCH_SIZE" (some (.int defaultFetchSize)) (some .int) true
    | d => .ok d
  if ← ordered (fetchSize.before? (.int 1)) then throw (.fetchSizeNotPositive fetchSize)
  let orElse (d default : Datum) : Datum := if d matches .null then default else d
  return { schema, id, start := orElse start (.text "-Infinity")
           stop := orElse stop (.text "Infinity"), fetchSize }

def name (d : DataStream) : String :=
  "DatabaseStreamingValue(" ++ d.schema ++ ", " ++ d.id.display ++ ")"

/-- The parameters of the queries for samples and times. -/
def range (d : DataStream) : List Datum := [d.id, d.start, d.stop]

def statement (d : DataStream) (q : Query) : Statement where
  query := q
  schema := d.schema
  params := match q with
    | .unit => [d.id]
    | _ => d.range

end DataStream

/-- A connection, the cursor that is open on it, and the rows that wait. -/
structure Cursor (κ : Type) where
  connection : κ
  cursor : Option Nat := none
  buffer : List Row := []

namespace Cursor

variable {κ α : Type}

def journalSource : String := "streaming.database"

def onConnection (x : Action κ α) : Action (Cursor κ) α :=
  Action.zoom (·.connection) (fun k c => { c with connection := k }) x

def noteStatement (s : Statement) : Action (Cursor κ) Unit :=
  Action.note (Query.journalEntry journalSource s.query.text (some (.list s.params)))

/-- Opens a cursor and executes the query for samples; if that fails the cursor is closed. -/
def openOn (conn : Connection κ) (d : DataStream) : Action (Cursor κ) Nat := do
  let statement := d.statement .samples
  noteStatement statement
  let n ← onConnection conn.openCursor
  (onConnection (conn.execute n statement)).orElse fun e => do
    onConnection (conn.closeCursor n)
    Action.fail e
  return n

/-- The open cursor, or a new one. -/
def current (conn : Connection κ) (d : DataStream) : Action (Cursor κ) Nat := do
  match (← Action.get).cursor with
  | some n => return n
  | none =>
    let n ← openOn conn d
    Action.modify fun c => { c with cursor := some n }
    return n

/-- The next row that waits. -/
def pop : Action (Cursor κ) (Option Row) := do
  match (← Action.get).buffer with
  | [] => return none
  | row :: rest =>
    Action.modify fun c => { c with buffer := rest }
    return some row

/-- The next row: one that waits, or the first of a new batch. -/
def fetch (conn : Connection κ) (d : DataStream) : Action (Cursor κ) (Option Row) := do
  if (← Action.get).buffer.isEmpty then
    let n ← current conn d
    let rows ← onConnection (conn.fetchMany n d.fetchSize)
    if rows.isEmpty then return none
    Action.note (.debug journalSource (d.name ++ " fetched " ++ toString rows.length ++ " rows"))
    Action.modify fun c => { c with buffer := rows }
  pop

/-- The one row that a query answers with. -/
def askRow (conn : Connection κ) (statement : Statement) : Action (Cursor κ) (Option Row) := do
  noteStatement statement
  onConnection conn.openReader
  onConnection (conn.query statement)
  onConnection conn.readRow

/-- The unit in a row that answers the query for it. -/
def unitOf : Option Row → Except Failure UnitOfMeasure
  | none => .ok .missing
  | some [] => .error .noColumn
  | some (symbol :: _) => .ok ⟨symbol⟩

/-- A valid time, if one of its bounds is there. -/
def validTimeOf : Datum → Datum → Except Failure (Option Time)
  | .null, .null => .ok none
  | start, stop => do return some (.period (← Period.ofData start stop))

/-- The times in a row that answers the query for them. Without a start there are none. -/
def timesOf : Option Row → Except Failure (Option Times)
  | none => .ok none
  | some [] => .error .noColumn
  | some (.null :: _) => .ok none
  | some [start, stop, result, validStart, validStop] => do
    let valid ← validTimeOf validStart validStop
    let result ← match result with
      | .null => pure none
      | d => do pure (some (Instant.ofTimestamp (← d.toTimestamp)))
    let phenomenon ← Period.ofData start stop
    return some { phenomenon := some (.period phenomenon), result, valid }
  | some _ => .error .rowTooShort

/-- Drops the rows that wait and closes the cursor. -/
def release (conn : Connection κ) (d : DataStream) : Action (Cursor κ) Unit := do
  Action.modify fun c => { c with buffer := [] }
  match (← Action.get).cursor with
  | none => return
  | some n =>
    (onConnection (conn.closeCursor n)).orElse fun e =>
      if e.isDatabase then
        Action.note (.error journalSource ("failed to close cursor of " ++ d.name))
      else Action.fail e
    Action.modify fun c => { c with cursor := none }

def source (conn : Connection κ) (d : DataStream) : Source (Cursor κ) Row where
  name := d.name
  fetch := fetch conn d
  unit := do Action.lift (unitOf (← askRow conn (d.statement .unit)))
  times := do Action.lift (timesOf (← askRow conn (d.statement .times)))
  release := release conn d
  convert row := .withUnit (row.toSample ·)
  pending c := c.buffer.length + conn.pending c.connection c.cursor

end Cursor

end SensorSeries
