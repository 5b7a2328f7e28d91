import SensorSeries.Database.Query
import SensorSeries.Database.Row
import SensorSeries.Stream.Action

/-!
# Connections

What a stream needs of a connection to an observation database. A server cursor holds the rows of
a query and gives them in batches; cursors are told apart by number. A reader runs a query that
answers with one row.
-/

namespace SensorSeries

/-- A query with all that it leaves open. -/
structure Statement where
  query : Query
  schema : String
  params : List Datum
  deriving Repr

def Statement.sql (s : Statement) : String := s.query.sql s.schema

structure Connection (κ : Type) where
  /-- Opens a server cursor and tells its number. -/
  openCursor : Action κ Nat
  execute : Nat → Statement → Action κ Unit
  /-- The next rows of a cursor, at most so many; no row at the end. -/
  fetchMany : Nat → Datum → Action κ (List Row)
  closeCursor : Nat → Action κ Unit
  openReader : Action κ Unit
  query : Statement → Action κ Unit
  readRow : Action κ (Option Row)
  /-- A bound on the number of rows that a cursor, or a new one, has still to give. -/
  pending : κ → Option Nat → Nat

end SensorSeries
