import SensorSeries.Proofs.Database.Server

/-!
# What the operations of a cursor do

One rule for each operation of a stream over a database: what it asks the connection, in which order,
and what it makes of every answer. A server cursor whose query fails is closed before the failure is
reported; a row comes from the connection only if none waits; releasing forgets the server cursor
unless closing it fails, and a failure of the database in doing so is not reported.
-/

namespace SensorSeries.Cursor

open SensorSeries.Action

variable {κ α : Type} {conn : Connection κ} {d : DataStream} {c : Cursor κ}

@[simp] theorem endsIn_onConnection (x : Action κ α) (c : Cursor κ)
    (Q : Except Failure α → Cursor κ → Prop) :
    (onConnection x).EndsIn c Q ↔
      x.EndsIn c.connection fun a k => Q a { c with connection := k } := .rfl

theorem onConnection_bind {β : Type} (x : Action κ α) (f : α → Action κ β) :
    onConnection (x >>= f) = onConnection x >>= fun a => onConnection (f a) := by
  unfold onConnection
  refine zoom_bind ?_ ?_ x f
  · exact fun k c => rfl
  · exact fun k k' c => rfl

theorem endsIn_askRow (s : Statement) (Q : Except Failure (Option Row) → Cursor κ → Prop) :
    (askRow conn s).EndsIn c Q ↔
      (conn.ask s).EndsIn c.connection fun a k => Q a { c with connection := k } := by
  have h : askRow conn s = noteStatement s >>= fun _ => onConnection (conn.ask s) := by
    simp only [askRow, Connection.ask, onConnection_bind]
  rw [h, endsIn_bind, noteStatement, endsIn_note, continues_ok, endsIn_onConnection]

/-- Queries for unit and times are none of the events of a server cursor, and leave the rows that
wait. -/
theorem endsIn_askRow_recorded {P : Cursor (κ × List CursorEvent) → Prop}
    {c : Cursor (κ × List CursorEvent)}
    (hP : ∀ k, P { c with connection := (k, c.connection.2) })
    (f : Option Row → Except Failure α) (s : Statement) :
    (do
      Action.lift (f (← askRow conn.recorded s)) :
        Action (Cursor (κ × List CursorEvent)) α).EndsIn c fun _ c => P c := by
  refine (endsIn_bind ..).2 ((endsIn_askRow _ _).2 ((conn.endsIn_recorded_ask ..).2 ?_))
  refine EndsIn.of_forall _ _ ?_
  rintro (e | row) k
  · exact hP k
  · exact hP k

/-- A new server cursor executes the query; if that fails it is closed. -/
theorem endsIn_openOn_iff (Q : Except Failure Nat → Cursor κ → Prop) :
    (openOn conn d).EndsIn c Q ↔ conn.openCursor.EndsIn c.connection fun
      | .error e, k => Q (.error e) { c with connection := k }
      | .ok n, k => (conn.execute n (d.statement .samples)).EndsIn k fun
        | .ok _, k => Q (.ok n) { c with connection := k }
        | .error e, k => (conn.closeCursor n).EndsIn k fun
          | .ok _, k => Q (.error e) { c with connection := k }
          | .error f, k => Q (.error f) { c with connection := k } := by
  simp only [openOn, noteStatement, endsIn_bind, endsIn_note, continues_ok, endsIn_onConnection]
  refine endsIn_congr ?_
  rintro (e | n) k
  · rfl
  · simp only [continues_ok, endsIn_bind, endsIn_orElse, endsIn_onConnection]
    refine endsIn_congr ?_
    rintro (e | a) k
    · refine endsIn_congr ?_
      rintro (f | a) k <;> rfl
    · rfl

/-- The open cursor, or a new one. -/
theorem endsIn_current_iff (Q : Except Failure Nat → Cursor κ → Prop) :
    (current conn d).EndsIn c Q ↔ match c.cursor with
      | some n => Q (.ok n) c
      | none => (openOn conn d).EndsIn c fun
        | .ok n, c => Q (.ok n) { c with cursor := some n }
        | .error e, c => Q (.error e) c := by
  rw [current, endsIn_bind, endsIn_get, continues_ok]
  cases c.cursor with
  | some n => rfl
  | none =>
    simp only [endsIn_bind]
    refine endsIn_congr ?_
    rintro (e | n) c <;> rfl

/-- A row that waits, or the first of a new batch. -/
theorem endsIn_fetch_iff (Q : Except Failure (Option Row) → Cursor κ → Prop) :
    (fetch conn d).EndsIn c Q ↔ match c.buffer with
      | row :: rest => Q (.ok (some row)) { c with buffer := rest }
      | [] => (current conn d).EndsIn c fun
        | .error e, c => Q (.error e) c
        | .ok n, c => (conn.fetchMany n d.fetchSize).EndsIn c.connection fun
          | .error e, k => Q (.error e) { c with connection := k }
          | .ok [], k => Q (.ok none) { c with connection := k }
          | .ok (row :: rest), k =>
            Q (.ok (some row)) { c with connection := k, buffer := rest } := by
  rw [fetch, endsIn_bind, endsIn_get, continues_ok]
  obtain ⟨k, cursor, _ | ⟨row, rest⟩⟩ := c
  · simp only [List.isEmpty_nil, ↓reduceIte, endsIn_bind]
    refine endsIn_congr ?_
    rintro (e | n) c
    · rfl
    · simp only [continues_ok, endsIn_bind, endsIn_onConnection]
      refine endsIn_congr ?_
      rintro (e | _ | ⟨row, rest⟩) k <;> rfl
  · rfl

/-- The rows that wait are dropped, and the open cursor is closed. -/
theorem endsIn_release_iff (Q : Except Failure Unit → Cursor κ → Prop) :
    (release conn d).EndsIn c Q ↔ match c.cursor with
      | none => Q (.ok ()) { c with buffer := [] }
      | some n => (conn.closeCursor n).EndsIn c.connection fun
        | .ok _, k => Q (.ok ()) { connection := k }
        | .error e, k =>
          if e.isDatabase then Q (.ok ()) { connection := k }
          else Q (.error e) { c with connection := k, buffer := [] } := by
  simp only [release, endsIn_bind, endsIn_modify, endsIn_get, continues_ok]
  obtain ⟨k, _ | n, buffer⟩ := c
  · rfl
  · simp only [endsIn_bind, endsIn_orElse, endsIn_onConnection]
    refine endsIn_congr ?_
    rintro (e | a) k
    · cases he : e.isDatabase <;> simp only [he, Bool.false_eq_true, ↓reduceIte] <;> rfl
    · rfl

end SensorSeries.Cursor
