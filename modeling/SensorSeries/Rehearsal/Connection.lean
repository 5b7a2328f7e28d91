import SensorSeries.Database.Connection

/-!
# Rehearsed connections

A connection to a server whose rows and replies are laid down beforehand. It lists all that it is
asked, and fails when the plan says so. Every server cursor starts at the first row.
-/

namespace SensorSeries

/-- What a connection can be asked. -/
inductive Request where
  | openCursor
  | execute (s : Statement)
  | fetchMany (n : Datum)
  | closeCursor
  | openReader
  | query (s : Statement)
  | readRow
  deriving Repr

inductive RequestKind where
  | openCursor
  | execute
  | fetchMany
  | closeCursor
  | openReader
  | query
  | readRow
  deriving DecidableEq, Repr

def Request.kind : Request → RequestKind
  | .openCursor => .openCursor
  | .execute _ => .execute
  | .fetchMany _ => .fetchMany
  | .closeCursor => .closeCursor
  | .openReader => .openReader
  | .query _ => .query
  | .readRow => .readRow

/-- The failure of the n-th request of a kind, counted from one. -/
abbrev RequestPlan := RequestKind → Nat → Option Outage

structure Rehearsal where
  rows : List Row
  units : List (Option Row) := []
  times : List (Option Row) := []
  plan : RequestPlan := fun _ _ => none
  requests : List Request := []
  /-- How many rows each cursor has given. -/
  given : List Nat := []
  /-- What the reader has asked last. -/
  asked : Query := .samples

namespace Rehearsal

def countOf (k : RequestKind) (requests : List Request) : Nat :=
  (requests.filter (·.kind == k)).length

/-- Lists a request, and fails if that is the plan. -/
def request (r : Request) : Action Rehearsal Unit := do
  Action.modify fun c => { c with requests := c.requests ++ [r] }
  let c ← Action.get
  match c.plan r.kind (countOf r.kind c.requests) with
  | some o => Action.fail (.outage o)
  | none => return

/-- The number of rows that a batch may have; it must be an integer. -/
def batchSize : Datum → Except Failure Nat
  | .int n => .ok n.toNat
  | .bool b => .ok (if b then 1 else 0)
  | _ => .error .wrongKind

def openCursor : Action Rehearsal Nat := do
  request .openCursor
  let n := (← Action.get).given.length
  Action.modify fun c => { c with given := c.given ++ [0] }
  return n

def fetchMany (cursor : Nat) (n : Datum) : Action Rehearsal (List Row) := do
  request (.fetchMany n)
  let size ← Action.lift (batchSize n)
  let c ← Action.get
  let batch := (c.rows.drop (c.given.getD cursor 0)).take size
  Action.modify fun c => { c with given := c.given.modify cursor (· + batch.length) }
  return batch

def query (s : Statement) : Action Rehearsal Unit := do
  request (.query s)
  Action.modify fun c => { c with asked := s.query }

/-- The next reply to what was asked last; a server without replies is gone. -/
def readRow : Action Rehearsal (Option Row) := do
  request .readRow
  let c ← Action.get
  match c.asked, c.units, c.times with
  | .unit, row :: rest, _ =>
    Action.modify fun c => { c with units := rest }
    return row
  | .times, _, row :: rest =>
    Action.modify fun c => { c with times := rest }
    return row
  | _, _, _ => Action.fail (.outage .connection)

def connection : Connection Rehearsal where
  openCursor := openCursor
  execute _ s := request (.execute s)
  fetchMany := fetchMany
  closeCursor _ := request .closeCursor
  openReader := request .openReader
  query := query
  readRow := readRow
  pending c cursor := c.rows.length - (cursor.bind fun n => c.given[n]?).getD 0

end Rehearsal

end SensorSeries
