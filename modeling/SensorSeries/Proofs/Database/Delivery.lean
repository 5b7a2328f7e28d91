import SensorSeries.Proofs.Database.Steps
import SensorSeries.Proofs.Rehearsal.Steady
import SensorSeries.Proofs.Stream.Delivery

/-!
# Delivery from a database

A stream over a server without faults delivers the rows of its query, each once and in order, in
whatever batches they come (`delivers_rows`). The invariant is `Reached`: the rows that have not
been asked for are those that wait, followed by those that the server has still to give.
-/

namespace SensorSeries.Cursor

open SensorSeries.Action

variable {κ α : Type} {conn : Connection κ} {d : DataStream} {unit : UnitOfMeasure}
  {gives : κ → Option Nat → List Row → Prop} {rows rest : List Row} {n : Nat} {c : Cursor κ}

/-! ## What a cursor does -/

theorem endsIn_openOn (h : conn.Serves d unit gives) (hc : gives c.connection none rest) :
    (openOn conn d).EndsIn c fun a c' => ∃ n, a = .ok n ∧
      ∃ k, c' = { c with connection := k } ∧ gives k (some n) rest := by
  rw [endsIn_openOn_iff]
  refine (h.opening hc).mono ?_
  rintro _ k ⟨n, rfl, hk⟩
  refine hk.mono ?_
  rintro _ k ⟨rfl, hk⟩
  exact ⟨n, rfl, k, rfl, hk⟩

/-- The open cursor, or one that is opened. -/
theorem endsIn_current (h : conn.Serves d unit gives) (hc : gives c.connection c.cursor rest) :
    (current conn d).EndsIn c fun a c' => ∃ n, a = .ok n ∧
      ∃ k, c' = { c with connection := k, cursor := some n } ∧ gives k (some n) rest := by
  rw [endsIn_current_iff]
  obtain ⟨k, _ | n, buffer⟩ := c
  · refine (endsIn_openOn h hc).mono ?_
    rintro _ c ⟨n, rfl, k, rfl, hk⟩
    exact ⟨n, rfl, k, rfl, hk⟩
  · exact ⟨n, rfl, k, rfl, hc⟩

/-- One row comes from those that wait, or from the first batch that the server gives. -/
theorem endsIn_fetch (h : conn.Serves d unit gives) (hc : gives c.connection c.cursor rest)
    (hbuffer : c.cursor = none → c.buffer = []) :
    (fetch conn d).EndsIn c fun a c' => a = .ok (c.buffer ++ rest).head? ∧
      c'.cursor.isSome ∧ ∃ rest', c'.buffer ++ rest' = (c.buffer ++ rest).tail ∧
        gives c'.connection c'.cursor rest' := by
  rw [endsIn_fetch_iff]
  obtain ⟨k, cursor, _ | ⟨row, buffer⟩⟩ := c
  · refine (endsIn_current h hc).mono ?_
    rintro _ c ⟨n, rfl, k, rfl, hk⟩
    refine (h.fetchMany hk).mono ?_
    rintro _ k ⟨_ | ⟨row, batch⟩, rest', rfl, rfl, hend, hk⟩
    · obtain rfl : rest = [] := hend rfl
      exact ⟨rfl, rfl, [], rfl, hk⟩
    · exact ⟨rfl, rfl, rest', rfl, hk⟩
  · cases cursor with
    | none => cases hbuffer rfl
    | some n => exact ⟨rfl, rfl, rest, rfl, hc⟩

/-! ## The rows of a query -/

/-- A cursor that has been asked for the next row so many times. -/
structure Reached (gives : κ → Option Nat → List Row → Prop) (rows : List Row) (n : Nat)
    (c : Cursor κ) : Prop where
  ahead : ∃ rest, c.buffer ++ rest = rows.drop n ∧ gives c.connection c.cursor rest
  opened : c.cursor = none ↔ n = 0
  buffer : c.cursor = none → c.buffer = []

theorem Reached.start {k : κ} (hk : gives k none rows) :
    Reached gives rows 0 { connection := k } where
  ahead := ⟨rows, rfl, hk⟩
  opened := by simp
  buffer _ := rfl

theorem Reached.withConnection (hc : Reached gives rows n c) {k : κ}
    (hrest : c.buffer ++ rest = rows.drop n) (hk : gives k c.cursor rest) :
    Reached gives rows n { c with connection := k } where
  ahead := ⟨rest, hrest, hk⟩
  opened := hc.opened
  buffer := hc.buffer

/-- **The source gives the rows one after the other.** -/
theorem source_delivers (h : conn.Serves d unit gives) (rows : List Row) :
    (source conn d).Delivers rows unit (Reached gives rows) where
  fetch := by
    rintro n c hc
    obtain ⟨rest, hrest, hgives⟩ := hc.ahead
    refine (endsIn_fetch h hgives hc.buffer).mono ?_
    rintro _ c ⟨rfl, hsome, rest', htail, hgives⟩
    rw [hrest] at htail ⊢
    have hne : c.cursor ≠ none := by
      intro hnone
      simp [hnone] at hsome
    refine ⟨by rw [List.head?_drop], ⟨rest', ?_, hgives⟩, ?_, ?_⟩
    · rw [htail, List.tail_drop]
    · simp [hne]
    · exact fun hnone => absurd hnone hne
  unit := by
    rintro n c hc
    obtain ⟨rest, hrest, hgives⟩ := hc.ahead
    refine (endsIn_bind ..).2 ((endsIn_askRow _ _).2 ?_)
    refine ((h.unit hgives).and (h.ask .unit hgives)).mono ?_
    rintro _ k ⟨⟨row, rfl, hunit⟩, hk⟩
    exact ⟨hunit, hc.withConnection hrest hk⟩
  times := by
    rintro n c hc
    obtain ⟨rest, hrest, hgives⟩ := hc.ahead
    refine (endsIn_bind ..).2 ((endsIn_askRow _ _).2 ?_)
    refine (h.ask .times hgives).mono ?_
    rintro (e | row) k hk
    · exact hc.withConnection hrest hk
    · exact hc.withConnection hrest hk

/-! ## Events -/

/-- The first row opens a cursor, and all the rows come from it. -/
theorem Reached.events {c : Cursor (κ × List CursorEvent)}
    (hc : Reached (Connection.Listed d gives) rows n c) :
    if 0 < n then
      ∃ cursor m, c.connection.2 = .opened cursor :: .executed cursor (d.statement .samples) ::
        List.replicate m (.fetched cursor d.fetchSize)
    else c.connection.2 = [] := by
  obtain ⟨rest, -, -, hlog⟩ := hc.ahead
  split
  · next hn =>
    have hsome : c.cursor ≠ none := by
      rw [Ne, hc.opened]
      omega
    obtain ⟨cursor, hcursor⟩ := Option.ne_none_iff_exists'.1 hsome
    rw [hcursor] at hlog
    exact ⟨cursor, hlog⟩
  · next hn =>
    rw [hc.opened.2 (by omega)] at hlog
    exact hlog

/-- An exhausted stream lets the cursor rest. -/
theorem events_of_exhausted {s : Stream (Cursor (κ × List CursorEvent))} {calls : List Stream.Call}
    (hcalls : ∀ c ∈ calls, c.isRead = true) (hs : s.exhausted = true)
    (transformer : Option (Transformer (Cursor (κ × List CursorEvent)))) :
    (Stream.after (source conn.recorded d) transformer s calls).backing.connection.2 =
      s.backing.connection.2 := by
  let src := source conn.recorded d
  let Resting (c : Cursor (κ × List CursorEvent)) : Prop :=
    c.connection.2 = s.backing.connection.2
  have hunit (c) (hc : Resting c) : src.unit.EndsIn c fun _ c => Resting c :=
    endsIn_askRow_recorded (fun _ => hc) unitOf (d.statement .unit)
  have htimes (c) (hc : Resting c) : src.times.EndsIn c fun _ c => Resting c :=
    endsIn_askRow_recorded (fun _ => hc) timesOf (d.statement .times)
  exact Stream.after_of_exhausted hunit htimes hcalls hs rfl

/-! ## Streams -/

/-- **A stream over a server without faults delivers every row once and in order**, however the
server cuts its batches and whatever is read in between: the calls for the next row are answered
with the rows, or their samples, and with none after that. The first of these calls opens a cursor
and executes the query; the others only ask this cursor for rows, and no more after the end. -/
theorem delivers_rows {samples : List Sample} {k : κ} {calls : List Stream.Call}
    (h : conn.Serves d unit gives) (hk : gives k none rows)
    (hsamples : List.Forall₂ (fun row x => row.toSample unit = .ok x) rows samples)
    (hcalls : ∀ c ∈ calls, c.isRead = true)
    (transformer : Option (Transformer (Cursor (κ × List CursorEvent)))) (template : Observation)
    (options : List (String × Datum)) :
    let src := source conn.recorded d
    let s : Stream (Cursor (κ × List CursorEvent)) :=
      { backing := { connection := (k, []) }, template, options }
    let events (calls : List Stream.Call) :=
      (Stream.after src transformer s calls).backing.connection.2
    (∀ (i : Nat) c a,
      ((Stream.trace src transformer s calls).filter (·.1.isNext))[i]? = some (c, a) →
      c.Delivers rows[i]? samples[i]? a) ∧
    (if calls.any (·.isNext) then
      ∃ n m, events calls = .opened n :: .executed n (d.statement .samples) ::
        List.replicate m (.fetched n d.fetchSize)
    else events calls = []) ∧
    ∀ before later c r, calls = before ++ later → c.isNext = true →
      (c, .ok r) ∈ Stream.trace src transformer s before → r.isEnd = true →
      events calls = events before := by
  intro src s events
  have hsource : src.Delivers rows unit (Reached (Connection.Listed d gives) rows) :=
    source_delivers h.recorded rows
  have hstart : Stream.Delivered rows unit (Reached (Connection.Listed d gives) rows) 0 s :=
    .start (Reached.start ⟨hk, rfl⟩) template options
  refine ⟨fun i c a hi => ?_, ?_, ?_⟩
  · have ha := hstart.answers hsource hsamples hcalls hi
    rwa [Nat.zero_add] at ha
  · have hany : calls.any (·.isNext) = true ↔
        0 < min (0 + calls.countP (·.isNext)) (rows.length + 1) := by
      have hcount : calls.any (·.isNext) = true ↔ 0 < calls.countP (·.isNext) :=
        List.any_eq_true.trans List.countP_pos_iff.symm
      rw [hcount]
      omega
    have hevents := (hstart.after hsource transformer hsamples hcalls).reached.events
    simpa only [hany] using hevents
  · rintro before later c r rfl hc hmem hr
    obtain ⟨hbefore, hlater⟩ := List.forall_mem_append.1 hcalls
    have hex := hstart.exhausted_of_isEnd hsource hsamples hbefore hc hr hmem
    change (Stream.after src transformer s (before ++ later)).backing.connection.2 = _
    rw [Stream.after_append]
    exact events_of_exhausted hlater hex transformer

/-- A row that holds a text, and no times. -/
def textRow (s : String) : Row :=
  [.null, .null, .null, .int 1, .null, .text s, .null, .null, .null]

/-- The sample of such a row. -/
def textSample (s : String) (unit : UnitOfMeasure) : Sample where
  time := some (.instant (.ofTimestamp none))
  value := some (.component { kind := .text, value := .text s, unit })

theorem toSample_textRow (s : String) (unit : UnitOfMeasure) :
    (textRow s).toSample unit = .ok (textSample s unit) := by
  have hkind : ResultKind.ofDatum? (.int 1) = some .text := by decide +kernel
  unfold Row.toSample textRow
  simp only [hkind]
  rfl

/-- Three rows in batches of two. -/
theorem delivers_rows_steady :
    let rows := [textRow "a", textRow "b", textRow "c"]
    let unit := UnitOfMeasure.ofText "1"
    let d : DataStream :=
      { schema := "s", id := .int 1, start := .text "-Infinity", stop := .text "Infinity"
        fetchSize := .int 2 }
    let src := source (Rehearsal.steady unit).recorded d
    let s : Stream (Cursor (Rehearsal × List CursorEvent)) :=
      { backing := { connection := ({ rows }, []) }, template := {} }
    let calls : List Stream.Call := [.nextValue, .unit, .nextEntity, .times, .nextValue]
    (∀ c a, ((Stream.trace src none s calls).filter (·.1.isNext))[2]? = some (c, a) →
      c.Delivers (some (textRow "c")) (some (textSample "c" unit)) a) ∧
    ∃ n m, (Stream.after src none s calls).backing.connection.2 =
      .opened n :: .executed n (d.statement .samples) :: List.replicate m (.fetched n (.int 2)) := by
  intro rows unit d src s calls
  have hserves : (Rehearsal.steady unit).Serves d unit Rehearsal.Gives :=
    Rehearsal.steady_serves rfl (by decide)
  have hgives : Rehearsal.Gives { rows } none rows := ⟨fun _ _ => rfl, rfl⟩
  have hsamples : List.Forall₂ (fun row x => row.toSample unit = .ok x) rows
      [textSample "a" unit, textSample "b" unit, textSample "c" unit] :=
    .cons (toSample_textRow "a" unit) (.cons (toSample_textRow "b" unit)
      (.cons (toSample_textRow "c" unit) .nil))
  have hcalls : ∀ c ∈ calls, c.isRead = true := by decide
  obtain ⟨hanswers, hevents, -⟩ :=
    delivers_rows hserves hgives hsamples hcalls none {} []
  -- With the condition settled first, the two sides agree without the calls being run.
  have hany : calls.any (·.isNext) = true := rfl
  rw [if_pos hany] at hevents
  dsimp only at hevents
  refine ⟨hanswers 2, ?_⟩
  with_reducible exact hevents

end SensorSeries.Cursor
