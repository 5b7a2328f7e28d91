import SensorSeries.Proofs.Database.Server
import SensorSeries.Rehearsal.Connection

/-!
# A rehearsed server that knows the unit

A rehearsed connection that always knows the unit is a server that a stream can rely on, whatever
rows are laid down and whatever the size of the batches, if it is positive: without faults it serves
the rows (`steady_serves`), and whatever faults are planned, none of them costs a row
(`steady_recovers`).
-/

namespace SensorSeries.Rehearsal

open SensorSeries.Action

/-- A rehearsed connection that answers every query of a reader with one and the same unit. -/
def steady (unit : UnitOfMeasure) : Connection Rehearsal :=
  { connection with
    readRow := do
      request .readRow
      return some [unit.symbol] }

variable {k : Rehearsal} {c : Option Nat} {rows : List Row} {d : DataStream} {unit : UnitOfMeasure}

/-! ## With faults -/

/-- What is laid down for a cursor, or a new one, and has not been given. -/
def Left (k : Rehearsal) : Option Nat → List Row → Prop
  | none, rows => rows = k.rows
  | some n, rows => ∃ g, k.given[n]? = some g ∧ rows = k.rows.drop g

/-- A request is listed, and nothing else changes, whether it fails or not. -/
theorem endsIn_request_or {Q : Except Failure Unit → Rehearsal → Prop} (r : Request)
    (hok : ∀ rs, Q (.ok ()) { k with requests := rs })
    (herror : ∀ o rs, Q (.error (.outage o)) { k with requests := rs }) : (request r).EndsIn k Q := by
  simp only [request, endsIn_bind, endsIn_modify, continues_ok, endsIn_get]
  split
  · exact herror _ _
  · exact hok _

/-- A new cursor stands before the first row, and another new one would as well. -/
theorem Left.openCursor (h : k.Left none rows) :
    openCursor.EndsIn k fun a k => k.Left none rows ∧ ∀ n, a = .ok n → k.Left (some n) rows := by
  unfold Rehearsal.openCursor
  rw [endsIn_bind]
  refine endsIn_request_or _ (fun rs => ?_) fun _ _ => ⟨h, nofun⟩
  simp only [endsIn_bind, endsIn_get, endsIn_modify, continues_ok]
  refine ⟨h, ?_⟩
  rintro _ ⟨⟩
  exact ⟨0, by simp, h⟩

/-- A batch is what stands at the front, and the front moves behind it. -/
theorem Left.fetchMany {n : Nat} {size : Int} (h : k.Left (some n) rows) (hsize : 1 ≤ size) :
    (fetchMany n (.int size)).EndsIn k fun
      | .error _, k => k.Left (some n) rows
      | .ok batch, k => ∃ rest, rows = batch ++ rest ∧ (batch = [] → rows = []) ∧
        k.Left (some n) rest := by
  unfold Rehearsal.fetchMany
  rw [endsIn_bind]
  refine endsIn_request_or _ (fun rs => ?_) fun _ _ => h
  obtain ⟨g, hg, rfl⟩ := h
  simp only [batchSize, endsIn_bind, endsIn_lift, endsIn_get, endsIn_modify, continues_ok]
  have hbatch : (k.rows.drop (k.given.getD n 0)).take size.toNat =
      (k.rows.drop g).take size.toNat := by
    rw [List.getD_eq_getElem?_getD, hg, Option.getD_some]
  rw [hbatch]
  refine ⟨(k.rows.drop g).drop ((k.rows.drop g).take size.toNat).length, ?_, ?_,
    g + ((k.rows.drop g).take size.toNat).length, ?_, List.drop_drop⟩
  · exact (List.prefix_iff_eq_append.1 (List.take_prefix _ _)).symm
  · intro hempty
    exact (List.take_eq_nil_iff.1 hempty).resolve_left (by omega)
  · simp [hg]

theorem Left.congr {k' : Rehearsal} (h : k.Left c rows) (hrows : k'.rows = k.rows)
    (hgiven : k'.given = k.given) : k'.Left c rows := by
  cases c with
  | none => exact h.trans hrows.symm
  | some n =>
    obtain ⟨g, hg, hleft⟩ := h
    exact ⟨g, hgiven ▸ hg, hrows ▸ hleft⟩

/-- A query for one row changes nothing that is laid down, and always has the same answer, if it has
one. -/
theorem Left.ask (h : k.Left c rows) (s : Statement) :
    ((steady unit).ask s).EndsIn k fun a k =>
      k.Left c rows ∧ ∀ row, a = .ok row → row = some [unit.symbol] := by
  unfold Connection.ask
  rw [endsIn_bind]
  refine endsIn_request_or _ (fun rs => ?_) fun _ _ => ⟨h.congr rfl rfl, nofun⟩
  rw [continues_ok, endsIn_bind]
  change (query s).EndsIn _ _
  unfold query
  rw [endsIn_bind]
  refine endsIn_request_or _ (fun rs => ?_) fun _ _ => ⟨h.congr rfl rfl, nofun⟩
  rw [continues_ok, endsIn_modify, continues_ok]
  change (request .readRow >>= fun _ => Pure.pure (some [unit.symbol])).EndsIn _ _
  rw [endsIn_bind]
  refine endsIn_request_or _ (fun rs => ?_) fun _ _ => ⟨h.congr rfl rfl, nofun⟩
  refine ⟨h.congr rfl rfl, ?_⟩
  rintro _ ⟨⟩
  rfl

/-- However a rehearsed connection fails, no failure costs a row. -/
theorem steady_recovers {size : Int} (hd : d.fetchSize = .int size) (hsize : 1 ≤ size) :
    (steady unit).Recovers d unit Left where
  opening h := by
    refine h.openCursor.mono ?_
    rintro (e | n) k ⟨hnone, hsome⟩
    · exact hnone
    · refine endsIn_request_or _ (fun _ => hsome n rfl) fun _ _ => ?_
      exact endsIn_request_or _ (fun _ => hnone) fun _ _ => hnone
  fetchMany h := by
    rw [hd]
    refine (h.fetchMany hsize).mono ?_
    rintro (e | batch) k hk
    · exact hk
    · exact hk
  unit h := by
    refine (h.ask _).mono ?_
    rintro a k ⟨hk, ha⟩
    refine ⟨hk, fun row hrow => ?_⟩
    rw [ha row hrow]
    rfl

/-! ## Without faults -/

/-- What is laid down for a cursor, or a new one, if nothing is to fail. -/
def Gives (k : Rehearsal) (c : Option Nat) (rows : List Row) : Prop :=
  (∀ kind n, k.plan kind n = none) ∧
    match c with
    | none => rows = k.rows
    | some n => ∃ g, k.given[n]? = some g ∧ rows = k.rows.drop g

theorem endsIn_request (hplan : ∀ kind n, k.plan kind n = none) (r : Request) :
    (request r).EndsIn k fun a k' => a = .ok () ∧ ∃ rs, k' = { k with requests := rs } := by
  simp only [request, endsIn_bind, endsIn_modify, continues_ok, endsIn_get, hplan]
  exact ⟨rfl, _, rfl⟩

theorem Gives.openCursor (h : k.Gives none rows) :
    openCursor.EndsIn k fun a k => ∃ n, a = .ok n ∧ k.Gives (some n) rows := by
  obtain ⟨hplan, rfl⟩ := h
  unfold Rehearsal.openCursor
  refine (endsIn_request hplan .openCursor).bind_ok ?_
  rintro _ ⟨rs, rfl⟩
  simp only [endsIn_bind, endsIn_get, endsIn_modify, continues_ok]
  exact ⟨_, rfl, hplan, 0, by simp, rfl⟩

theorem Gives.fetchMany {n : Nat} {size : Int} (h : k.Gives (some n) rows) (hsize : 1 ≤ size) :
    (fetchMany n (.int size)).EndsIn k fun a k => ∃ batch rest, a = .ok batch ∧
      rows = batch ++ rest ∧ (batch = [] → rows = []) ∧ k.Gives (some n) rest := by
  obtain ⟨hplan, hleft⟩ := h
  have hanswer : (Rehearsal.fetchMany n (.int size)).EndsIn k fun a k =>
      (∃ batch, a = .ok batch) ∧ ∀ kind n, k.plan kind n = none := by
    unfold Rehearsal.fetchMany
    refine (endsIn_request hplan (.fetchMany (.int size))).bind_ok ?_
    rintro _ ⟨rs, rfl⟩
    exact ⟨⟨_, rfl⟩, hplan⟩
  refine ((Left.fetchMany hleft hsize).and hanswer).mono ?_
  rintro _ k ⟨hk, ⟨batch, rfl⟩, hplan⟩
  obtain ⟨rest, hrows, hend, hk⟩ := hk
  exact ⟨batch, rest, rfl, hrows, hend, hplan, hk⟩

/-- A query for one row disturbs nothing, if reading the row disturbs nothing. -/
theorem Gives.ask {readRow : Action Rehearsal (Option Row)} {s : Statement} {row : Option Row}
    (h : k.Gives c rows)
    (hread : ∀ {k : Rehearsal}, k.Gives c rows → k.asked = s.query →
      readRow.EndsIn k fun a k => a = .ok row ∧ k.Gives c rows) :
    ({ connection with readRow } : Connection Rehearsal).ask s |>.EndsIn k fun a k =>
      a = .ok row ∧ k.Gives c rows := by
  unfold Connection.ask
  refine (endsIn_request h.1 .openReader).bind_ok ?_
  rintro _ ⟨rs, rfl⟩
  have hreader : { k with requests := rs }.Gives c rows := h
  have hquery : (query s).EndsIn { k with requests := rs } fun a k =>
      a = .ok () ∧ k.Gives c rows ∧ k.asked = s.query := by
    refine (endsIn_request hreader.1 (.query s)).bind_ok ?_
    rintro _ ⟨rs, rfl⟩
    exact ⟨rfl, h, rfl⟩
  refine hquery.bind_ok ?_
  intro k hk
  exact hread hk.1 hk.2

theorem steady_ask (h : k.Gives c rows) (s : Statement) :
    ((steady unit).ask s).EndsIn k fun a k =>
      a = .ok (some [unit.symbol]) ∧ k.Gives c rows := by
  refine h.ask fun hk _ => ?_
  refine (endsIn_request hk.1 .readRow).bind_ok ?_
  rintro _ ⟨rs, rfl⟩
  exact ⟨rfl, hk⟩

/-- Without faults a rehearsed connection serves what is laid down. -/
theorem steady_serves {size : Int} (hd : d.fetchSize = .int size) (hsize : 1 ≤ size) :
    (steady unit).Serves d unit Gives where
  opening h := by
    refine h.openCursor.mono ?_
    rintro _ k ⟨n, rfl, hk⟩
    refine ⟨n, rfl, (endsIn_request hk.1 _).mono ?_⟩
    rintro _ k ⟨rfl, rs, rfl⟩
    exact ⟨rfl, hk⟩
  fetchMany h := by
    rw [hd]
    exact h.fetchMany hsize
  ask q h := (steady_ask h (d.statement q)).mono fun a k hk => hk.2
  unit h := (steady_ask h (d.statement .unit)).mono fun a k hk => ⟨_, hk.1, rfl⟩

/-! ## With times -/

variable {told : Row}

end SensorSeries.Rehearsal
