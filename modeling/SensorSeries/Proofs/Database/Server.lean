import SensorSeries.Database.Stream
import SensorSeries.Proofs.Stream.Outcomes

/-!
# Servers

`Serves` is what a stream relies on when nothing goes wrong at the server: a cursor gives the rows
of its query in batches of any sizes, none of them empty before the end, and the unit can be queried
at any time without disturbing the cursor. `Recovers` is what is left of that when the server may
fail, but loses nothing by it. `recorded` lists what a connection is asked about its cursors, and does
nothing else.
-/

namespace SensorSeries

/-- What can happen to the cursors of a connection. A cursor that could not be opened is none. -/
inductive CursorEvent where
  | opened (cursor : Nat)
  | executed (cursor : Nat) (statement : Statement)
  | fetched (cursor : Nat) (size : Datum)
  | closed (cursor : Nat)

namespace Connection

open SensorSeries.Action

variable {κ : Type}

def record (e : CursorEvent) : Action (κ × List CursorEvent) Unit :=
  Action.modify fun (k, events) => (k, events ++ [e])

/-- A connection that lists the events of its cursors. -/
def recorded (conn : Connection κ) : Connection (κ × List CursorEvent) where
  openCursor := do
    let n ← onFirst conn.openCursor
    record (.opened n)
    return n
  execute n s := do
    record (.executed n s)
    onFirst (conn.execute n s)
  fetchMany n size := do
    record (.fetched n size)
    onFirst (conn.fetchMany n size)
  closeCursor n := do
    record (.closed n)
    onFirst (conn.closeCursor n)
  openReader := onFirst conn.openReader
  query s := onFirst (conn.query s)
  readRow := onFirst conn.readRow
  pending k cursor := conn.pending k.1 cursor

/-- Runs a query that is answered with one row. -/
def ask (conn : Connection κ) (s : Statement) : Action κ (Option Row) := do
  conn.openReader
  conn.query s
  conn.readRow

variable (conn : Connection κ) (k : κ × List CursorEvent)

/-! ## Listing events changes nothing else -/

theorem endsIn_recorded_openCursor (Q : Except Failure Nat → κ × List CursorEvent → Prop) :
    conn.recorded.openCursor.EndsIn k Q ↔ conn.openCursor.EndsIn k.1 fun
      | .ok n, k' => Q (.ok n) (k', k.2 ++ [.opened n])
      | .error e, k' => Q (.error e) (k', k.2) := by
  rw [recorded, endsIn_bind, endsIn_onFirst]
  unfold EndsIn
  cases (conn.openCursor.run k.1).answer <;> rfl

theorem endsIn_recorded_execute (n : Nat) (s : Statement)
    (Q : Except Failure Unit → κ × List CursorEvent → Prop) :
    (conn.recorded.execute n s).EndsIn k Q ↔
      (conn.execute n s).EndsIn k.1 fun a k' => Q a (k', k.2 ++ [.executed n s]) := .rfl

theorem endsIn_recorded_fetchMany (n : Nat) (size : Datum)
    (Q : Except Failure (List Row) → κ × List CursorEvent → Prop) :
    (conn.recorded.fetchMany n size).EndsIn k Q ↔
      (conn.fetchMany n size).EndsIn k.1 fun a k' => Q a (k', k.2 ++ [.fetched n size]) := .rfl

theorem endsIn_recorded_closeCursor (n : Nat)
    (Q : Except Failure Unit → κ × List CursorEvent → Prop) :
    (conn.recorded.closeCursor n).EndsIn k Q ↔
      (conn.closeCursor n).EndsIn k.1 fun a k' => Q a (k', k.2 ++ [.closed n]) := .rfl

theorem endsIn_recorded_ask (s : Statement)
    (Q : Except Failure (Option Row) → κ × List CursorEvent → Prop) :
    (conn.recorded.ask s).EndsIn k Q ↔ (conn.ask s).EndsIn k.1 fun a k' => Q a (k', k.2) := by
  have h : conn.recorded.ask s = onFirst (conn.ask s) := by
    simp only [ask, recorded, onFirst_bind]
  rw [h, endsIn_onFirst]

/-! ## Servers with passing faults -/

/-- The connection may fail, but no failure costs a row: a state `gives` what its cursor has still to
give, or a new one if there is no cursor. -/
structure Recovers (conn : Connection κ) (d : DataStream) (unit : UnitOfMeasure)
    (gives : κ → Option Nat → List Row → Prop) : Prop where
  opening : ∀ {k rows}, gives k none rows → conn.openCursor.EndsIn k fun
    | .error _, k => gives k none rows
    | .ok n, k => (conn.execute n (d.statement .samples)).EndsIn k fun
      | .ok _, k => gives k (some n) rows
      | .error _, k => (conn.closeCursor n).EndsIn k fun _ k => gives k none rows
  fetchMany : ∀ {k n rows}, gives k (some n) rows → (conn.fetchMany n d.fetchSize).EndsIn k fun
    | .error _, k => gives k (some n) rows
    | .ok batch, k => ∃ rest, rows = batch ++ rest ∧ (batch = [] → rows = []) ∧
      gives k (some n) rest
  unit : ∀ {k c rows}, gives k c rows → (conn.ask (d.statement .unit)).EndsIn k fun a k =>
    gives k c rows ∧ ∀ row, a = .ok row → Cursor.unitOf row = .ok unit

/-! ## Servers without faults -/

/-- The connection is up. A state `gives` what its cursor has still to give, or a new one if there
is no cursor. -/
structure Serves (conn : Connection κ) (d : DataStream) (unit : UnitOfMeasure)
    (gives : κ → Option Nat → List Row → Prop) : Prop where
  opening : ∀ {k rows}, gives k none rows → conn.openCursor.EndsIn k fun a k => ∃ n, a = .ok n ∧
    (conn.execute n (d.statement .samples)).EndsIn k fun b k => b = .ok () ∧ gives k (some n) rows
  fetchMany : ∀ {k n rows}, gives k (some n) rows →
    (conn.fetchMany n d.fetchSize).EndsIn k fun a k => ∃ batch rest, a = .ok batch ∧
      rows = batch ++ rest ∧ (batch = [] → rows = []) ∧ gives k (some n) rest
  ask : ∀ {k c rows} q, gives k c rows →
    (conn.ask (d.statement q)).EndsIn k fun _ k => gives k c rows
  unit : ∀ {k c rows}, gives k c rows →
    (conn.ask (d.statement .unit)).EndsIn k fun a _ =>
      ∃ row, a = .ok row ∧ Cursor.unitOf row = .ok unit

/-- The connection is up, answers the query for times with one and the same row, and bounds the rows
that are still to come. -/
structure Informs (conn : Connection κ) (d : DataStream) (unit : UnitOfMeasure)
    (gives : κ → Option Nat → List Row → Prop) (told : Row) : Prop
    extends Serves conn d unit gives where
  times : ∀ {k c rows}, gives k c rows →
    (conn.ask (d.statement .times)).EndsIn k fun a _ => a = .ok (some told)
  pending : ∀ {k c rows}, gives k c rows → rows.length ≤ conn.pending k c

/-- The events of the cursor of a stream that is not closed: it is opened, its query is executed,
and then it is only asked for rows. -/
def Log (d : DataStream) : Option Nat → List CursorEvent → Prop
  | none, events => events = []
  | some n, events => ∃ m, events =
      .opened n :: .executed n (d.statement .samples) :: List.replicate m (.fetched n d.fetchSize)

variable {conn} {d : DataStream} {unit : UnitOfMeasure} {gives : κ → Option Nat → List Row → Prop}

/-- What a state gives, if these are the events that have been listed. -/
def Listed (d : DataStream) (gives : κ → Option Nat → List Row → Prop) (k : κ × List CursorEvent)
    (c : Option Nat) (rows : List Row) : Prop :=
  gives k.1 c rows ∧ Log d c k.2

/-- A server is as good when its events are listed. -/
theorem Serves.recorded (h : conn.Serves d unit gives) :
    conn.recorded.Serves d unit (Listed d gives) where
  opening := by
    rintro ⟨k, _⟩ rows ⟨hk, rfl⟩
    rw [endsIn_recorded_openCursor]
    refine (h.opening hk).mono ?_
    rintro _ k ⟨n, rfl, hk⟩
    refine ⟨n, rfl, ?_⟩
    rw [endsIn_recorded_execute]
    refine hk.mono ?_
    rintro _ k ⟨rfl, hk⟩
    exact ⟨rfl, hk, 0, rfl⟩
  fetchMany := by
    rintro ⟨k, _⟩ n rows ⟨hk, m, rfl⟩
    rw [endsIn_recorded_fetchMany]
    refine (h.fetchMany hk).mono ?_
    rintro _ k ⟨batch, rest, rfl, hrows, hend, hk⟩
    refine ⟨batch, rest, rfl, hrows, hend, hk, m + 1, ?_⟩
    rw [List.replicate_succ']
    rfl
  ask := by
    rintro k c rows q ⟨hk, hlog⟩
    rw [endsIn_recorded_ask]
    exact (h.ask q hk).mono fun a k hk => ⟨hk, hlog⟩
  unit := by
    rintro k c rows ⟨hk, -⟩
    rw [endsIn_recorded_ask]
    exact h.unit hk

end Connection

end SensorSeries
