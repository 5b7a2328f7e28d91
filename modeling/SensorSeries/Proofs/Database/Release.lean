import SensorSeries.Proofs.Database.Steps
import SensorSeries.Proofs.Stream.Uses
import SensorSeries.Rehearsal.Connection

/-!
# Release of the server cursors

A stream over a database closes the server cursors that it opens, whatever fails and whatever it is
used for: in the order in which it has opened them, each once, and before it opens the next one
(`Orderly`). So one of them is open at most, at any point of any use; and none is once the stream has
been closed (`releases_cursors`).

`Orderly` is a matter of the events of the server cursors alone. What ties it to a stream is
`Secured`: the cursor that is open is the one that the stream holds, and a closed stream holds none.
-/

namespace SensorSeries

namespace CursorEvent

/-- The server cursors that were opened, in order. -/
def openings (events : List CursorEvent) : List Nat :=
  events.filterMap fun
    | .opened n => some n
    | _ => none

/-- The server cursors that were closed, in order. -/
def closings (events : List CursorEvent) : List Nat :=
  events.filterMap fun
    | .closed n => some n
    | _ => none

theorem openings_append (xs ys : List CursorEvent) :
    openings (xs ++ ys) = openings xs ++ openings ys :=
  List.filterMap_append

theorem closings_append (xs ys : List CursorEvent) :
    closings (xs ++ ys) = closings xs ++ closings ys :=
  List.filterMap_append

/-- The server cursors are closed in the order in which they were opened, each once; at any point all
but the last one have been closed. The one that is open now is told beside. -/
structure Orderly (current : Option Nat) (events : List CursorEvent) : Prop where
  always : ∀ es, es <+: events → ∃ c : Option Nat, openings es = closings es ++ c.toList
  now : openings events = closings events ++ current.toList

namespace Orderly

variable {current : Option Nat} {events : List CursorEvent} {n : Nat}

theorem nil : Orderly none [] where
  always es hes := ⟨none, by rw [List.prefix_nil.1 hes]; rfl⟩
  now := rfl

/-- One more event is in order if what was open before and what the event opens is what it closes and
what is open after it. -/
theorem concat (h : Orderly current events) {e : CursorEvent} {c : Option Nat}
    (he : current.toList ++ openings [e] = closings [e] ++ c.toList) :
    Orderly c (events ++ [e]) := by
  have hnow : openings (events ++ [e]) = closings (events ++ [e]) ++ c.toList := by
    rw [openings_append, closings_append, h.now, List.append_assoc, he, List.append_assoc]
  refine ⟨fun es hes => ?_, hnow⟩
  rcases List.prefix_concat_iff.1 hes with rfl | hes
  · exact ⟨c, hnow⟩
  · exact h.always es hes

theorem opening (h : Orderly none events) (n : Nat) : Orderly (some n) (events ++ [.opened n]) :=
  h.concat rfl

theorem closing (h : Orderly (some n) events) : Orderly none (events ++ [.closed n]) :=
  h.concat rfl

theorem executing (h : Orderly current events) (n : Nat) (s : Statement) :
    Orderly current (events ++ [.executed n s]) :=
  h.concat (List.append_nil _)

theorem fetching (h : Orderly current events) (n : Nat) (size : Datum) :
    Orderly current (events ++ [.fetched n size]) :=
  h.concat (List.append_nil _)

end Orderly

end CursorEvent

namespace Cursor

open SensorSeries.Action CursorEvent

variable {κ : Type} {conn : Connection κ} {d : DataStream} {c : Cursor (κ × List CursorEvent)}

/-! ## What a cursor holds -/

/-- A server cursor that cannot execute its query is closed at once. -/
theorem orderly_openOn (hc : Orderly none c.connection.2) :
    (openOn conn.recorded d).EndsIn c fun a c' =>
      c'.cursor = c.cursor ∧ Orderly a.toOption c'.connection.2 := by
  rw [endsIn_openOn_iff, conn.endsIn_recorded_openCursor]
  refine EndsIn.of_forall _ _ ?_
  rintro (e | n) k
  · exact ⟨rfl, hc⟩
  · dsimp only
    rw [conn.endsIn_recorded_execute]
    have hopen := (hc.opening n).executing n (d.statement .samples)
    refine EndsIn.of_forall _ _ ?_
    rintro (e | _) k
    · dsimp only
      rw [conn.endsIn_recorded_closeCursor]
      refine EndsIn.of_forall _ _ ?_
      rintro (f | _) k
      · exact ⟨rfl, hopen.closing⟩
      · exact ⟨rfl, hopen.closing⟩
    · exact ⟨rfl, hopen⟩

theorem orderly_current (hc : Orderly c.cursor c.connection.2) :
    (current conn.recorded d).EndsIn c fun _ c' => Orderly c'.cursor c'.connection.2 := by
  rw [endsIn_current_iff]
  split
  · exact hc
  · next hnone =>
    rw [hnone] at hc
    refine (orderly_openOn hc).mono ?_
    rintro (e | n) c' ⟨hcursor, hc'⟩
    · dsimp only
      rw [hcursor, hnone]
      exact hc'
    · exact hc'

theorem orderly_fetch (hc : Orderly c.cursor c.connection.2) :
    (fetch conn.recorded d).EndsIn c fun _ c' => Orderly c'.cursor c'.connection.2 := by
  rw [endsIn_fetch_iff]
  split
  · exact hc
  · refine (orderly_current hc).mono ?_
    rintro (e | n) c hc
    · exact hc
    · dsimp only
      rw [conn.endsIn_recorded_fetchMany]
      have hfetched := hc.fetching n d.fetchSize
      refine EndsIn.of_forall _ _ ?_
      rintro (e | _ | ⟨row, rest⟩) k
      · exact hfetched
      · exact hfetched
      · exact hfetched

theorem orderly_release (hc : Orderly c.cursor c.connection.2) :
    (release conn.recorded d).EndsIn c fun _ c' =>
      Orderly none c'.connection.2 ∧ c'.buffer = [] := by
  rw [endsIn_release_iff]
  split
  · next hnone =>
    rw [hnone] at hc
    exact ⟨hc, rfl⟩
  · next n hsome =>
    rw [hsome] at hc
    rw [conn.endsIn_recorded_closeCursor]
    refine EndsIn.of_forall _ _ ?_
    rintro (e | _) k
    · dsimp only
      split
      · exact ⟨hc.closing, rfl⟩
      · exact ⟨hc.closing, rfl⟩
    · exact ⟨hc.closing, rfl⟩

/-! ## What a stream holds -/

/-- The server cursor that is open is the one that the stream holds, and a closed stream holds
nothing. Since the stream was closed nothing has happened; what had happened then may be told. -/
structure Secured (final : Option (List CursorEvent))
    (s : Stream (Cursor (κ × List CursorEvent))) : Prop where
  orderly : Orderly (if s.closed then none else s.backing.cursor) s.backing.connection.2
  spent : s.closed = true → s.exhausted = true ∧ s.backing.buffer = []
  final : ∀ es ∈ final, s.closed = true ∧ s.backing.connection.2 = es

/-- A transformer may use a connection, but it cannot reach the cursor of a stream. -/
def besideCursor (t : Transformer κ) : Transformer (Cursor (κ × List CursorEvent)) :=
  t.zoom (·.connection.1) fun k c => { c with connection := (k, c.connection.2) }

variable {s : Stream (Cursor (κ × List CursorEvent))} {transformer : Option (Transformer κ)}
  {final : Option (List CursorEvent)}

namespace Secured

theorem start (k : κ) (template : Observation) (options : List (String × Datum)) :
    Secured none { backing := { connection := (k, []) }, template, options } where
  orderly := .nil
  spent := nofun
  final := nofun

/-- A stream that is not closed holds the server cursor that is open. -/
theorem orderly_cursor (hs : Secured final s) (hclosed : s.closed = false) :
    Orderly s.backing.cursor s.backing.connection.2 := by
  have h := hs.orderly
  rwa [hclosed] at h

theorem of_open (hclosed : s.closed = false)
    (h : Orderly s.backing.cursor s.backing.connection.2) : Secured none s where
  orderly := by rwa [hclosed]
  spent ht := by simp [hclosed] at ht
  final := nofun

theorem final_eq_none (hs : Secured final s) (hclosed : s.closed = false) : final = none := by
  cases hfinal : final with
  | none => rfl
  | some es =>
    have h := (hs.final es hfinal).1
    simp [hclosed] at h

theorem nextEntity (hs : Secured final s) :
    (Stream.nextEntity (source conn.recorded d)).EndsIn s fun _ s => Secured final s := by
  rw [Stream.endsIn_nextEntity]
  split
  · exact hs
  · next hex =>
    -- A closed stream is exhausted and would not ask its cursor.
    have hclosed : s.closed = false :=
      Bool.eq_false_iff.2 fun hclosed => hex (hs.spent hclosed).1
    rw [hs.final_eq_none hclosed]
    refine (orderly_fetch (hs.orderly_cursor hclosed)).mono ?_
    rintro (e | _ | row) c hc
    · exact of_open hclosed hc
    · exact of_open hclosed hc
    · exact of_open hclosed hc

theorem readUnit (hs : Secured final s) :
    (Stream.readUnit (source conn.recorded d)).EndsIn s fun _ s => Secured final s := by
  have hask : (source conn.recorded d).unit.EndsIn s.backing fun _ c =>
      Secured final { s with backing := c } :=
    endsIn_askRow_recorded (fun k => ⟨hs.orderly, hs.spent, hs.final⟩) unitOf (d.statement .unit)
  refine (Stream.readUnit_frame (source conn.recorded d) s hask hs).mono ?_
  rintro _ _ ⟨c, unit, rfl, hc⟩
  exact ⟨hc.orderly, hc.spent, hc.final⟩

theorem readTimes (hs : Secured final s) :
    (Stream.readTimes (source conn.recorded d)).EndsIn s fun _ s => Secured final s := by
  have hask : (source conn.recorded d).times.EndsIn s.backing fun _ c =>
      Secured final { s with backing := c } :=
    endsIn_askRow_recorded (fun k => ⟨hs.orderly, hs.spent, hs.final⟩) timesOf (d.statement .times)
  refine (Stream.readTimes_frame (source conn.recorded d) s hask hs).mono ?_
  rintro _ _ ⟨c, times, rfl, hc⟩
  exact ⟨hc.orderly, hc.spent, hc.final⟩

/-- Closing a stream leaves it closed, also if the connection fails. -/
theorem close (hs : Secured final s) :
    (Stream.close (source conn.recorded d)).EndsIn s fun _ s =>
      Secured final s ∧ s.closed = true := by
  rw [Stream.endsIn_close]
  split
  · next hclosed => exact ⟨hs, hclosed⟩
  · next hclosed =>
    have hopen : s.closed = false := by simpa using hclosed
    rw [hs.final_eq_none hopen]
    refine (orderly_release (hs.orderly_cursor hopen)).mono ?_
    rintro _ c ⟨hc, hbuffer⟩
    exact ⟨⟨hc, fun _ => ⟨rfl, hbuffer⟩, nofun⟩, rfl⟩

theorem modified (ps : ParameterSet) (hs : Secured final s) :
    (Stream.modified (transformer.map besideCursor) ps).EndsIn s fun _ s => Secured final s := by
  refine (Stream.modified_frame (P := fun c => Secured final { s with backing := c }) ?_ ps
    hs).mono ?_
  · rintro t ht g n c hc
    obtain ⟨t, -, rfl⟩ := Option.map_eq_some_iff.1 ht
    refine (t.endsIn_zoom ..).2 (EndsIn.of_forall _ _ fun _ k => ?_)
    exact ⟨hc.orderly, hc.spent, hc.final⟩
  · rintro _ t ⟨c, rfl, hc⟩
    exact hc

theorem keeps : Stream.Keeps (source conn.recorded d) fun _ => Secured final where
  nextEntity hs := hs.nextEntity
  readUnit hs := hs.readUnit
  fail _ hs := hs
  report _ hs := hs

variable (transformer) (uses : List Stream.Use)

/-- Every use of a stream leaves it secured. -/
theorem afterUses (hs : Secured final s) :
    Secured final
      (Stream.afterUses (source conn.recorded d) (transformer.map besideCursor) s uses) :=
  keeps.afterUses readTimes (fun _ hs => ⟨hs.orderly, hs.spent, hs.final⟩)
    (fun hs => hs.close.mono fun _ _ hs => hs.1) modified uses hs

/-- A use that closes the stream leaves it closed, whether the use fails or not. -/
theorem closed_of_closes {u : Stream.Use} (hu : u.closes = true) (hs : Secured final s) :
    (u.perform (source conn.recorded d) (transformer.map besideCursor)).EndsIn s fun _ s =>
      Secured final s ∧ s.closed = true := by
  cases u with
  | leave thrown =>
    unfold Stream.Use.perform Stream.closingAfter
    refine EndsIn.bind_state ?_ fun _ _ hs => hs
    exact hs.close.bind_state fun _ _ hs => hs
  | call c =>
    cases c with
    | close => exact hs.close.bind_state fun _ _ hs => hs
    | _ => cases hu

/-- Nothing happens to the server cursors of a closed stream. -/
theorem settle (hs : Secured none s) (hclosed : s.closed = true) :
    Secured (some s.backing.connection.2) s where
  orderly := hs.orderly
  spent := hs.spent
  final := by
    rintro _ ⟨⟩
    exact ⟨hclosed, rfl⟩

/-- A stream that some use has closed stays closed. -/
theorem closed_afterUses (hs : Secured none s) (huses : uses.any (·.closes) = true) :
    (Stream.afterUses (source conn.recorded d) (transformer.map besideCursor) s uses).closed =
      true := by
  obtain ⟨u, hu, hcloses⟩ := List.any_eq_true.1 huses
  obtain ⟨before, later, rfl⟩ := List.append_of_mem hu
  rw [Stream.afterUses_append]
  obtain ⟨hs, hclosed⟩ := (hs.afterUses transformer before).closed_of_closes transformer hcloses
  exact (((hs.settle hclosed).afterUses transformer later).final _ rfl).1

/-- What a closed stream has opened is closed. -/
theorem openings_eq_closings (hs : Secured final s) (hclosed : s.closed = true) :
    openings s.backing.connection.2 = closings s.backing.connection.2 := by
  have h := hs.orderly
  rw [hclosed] at h
  simpa using h.now

end Secured

/-- A stream that could not be closed has failed to close its server cursor, and the failure is none
of the database. -/
theorem failure_of_close {c : Stream (Cursor κ)} :
    (Stream.close (source conn d)).EndsIn c fun a _ => ∀ e, a = .error e →
      e.isDatabase = false ∧ ∃ n, c.backing.cursor = some n ∧
        ((conn.closeCursor n).run c.backing.connection).answer = .error e := by
  rw [Stream.endsIn_close]
  split
  · intro e he
    cases he
  · change (release conn d).EndsIn c.backing _
    rw [endsIn_release_iff]
    split
    · intro e he
      cases he
    · next n hn =>
      unfold EndsIn
      cases hclose : ((conn.closeCursor n).run c.backing.connection).answer with
      | ok a =>
        intro e he
        cases he
      | error f =>
        dsimp only
        cases hf : f.isDatabase with
        | true =>
          intro e he
          cases he
        | false =>
          intro e he
          cases he
          exact ⟨hf, n, hn, hclose⟩

/-- **Server cursors are released.** Whatever a stream over a database is used for and whatever fails:
at any point at most one of the server cursors that it has opened has not been closed. After a use
that closes the stream, whether it went through or not, all of them are closed, each once; no row
waits, there is no next entity or sample, and nothing that follows opens another one. Closing the
stream fails only as closing its server cursor did, and not with a failure of the database. -/
theorem releases_cursors (conn : Connection κ) (d : DataStream)
    (transformer : Option (Transformer κ)) (template : Observation)
    (options : List (String × Datum)) (k : κ) (uses : List Stream.Use) :
    let src := source conn.recorded d
    let left := Stream.afterUses src (transformer.map besideCursor)
      { backing := { connection := (k, []) }, template, options }
    let events uses := (left uses).backing.connection.2
    (∀ es, es <+: events uses → ∃ c : Option Nat, openings es = closings es ++ c.toList) ∧
    (uses.any (·.closes) = true →
      openings (events uses) = closings (events uses) ∧ (left uses).backing.buffer = [] ∧
        (Stream.nextEntity src).EndsIn (left uses) (fun a _ => a = .ok none) ∧
        (Stream.nextValue src).EndsIn (left uses) (fun a _ => a = .ok none) ∧
        ∀ later, events (uses ++ later) = events uses) ∧
    (Stream.close src).EndsIn (left uses) fun a _ => ∀ e, a = .error e → e.isDatabase = false ∧
      ∃ n, (left uses).backing.cursor = some n ∧
        ((conn.closeCursor n).run (left uses).backing.connection.1).answer = .error e := by
  intro src left events
  have hstart : Secured none
      { backing := { connection := (k, []) }, template, options } := .start k template options
  have hs : Secured none (left uses) := hstart.afterUses transformer uses
  refine ⟨hs.orderly.always, ?_, failure_of_close⟩
  intro huses
  have hclosed : (left uses).closed = true := hstart.closed_afterUses transformer uses huses
  obtain ⟨hex, hbuffer⟩ := hs.spent hclosed
  have hnext : (Stream.nextEntity src).EndsIn (left uses) fun a _ => a = .ok none := by
    rw [Stream.endsIn_nextEntity, if_pos hex]
  refine ⟨hs.openings_eq_closings hclosed, hbuffer, hnext, ?_, ?_⟩
  · refine EndsIn.bind_ok (P := fun _ => True) (hnext.mono fun a _ ha => ⟨ha, trivial⟩) ?_
    intro t _
    rfl
  · intro later
    have happend : left (uses ++ later) =
        Stream.afterUses src (transformer.map besideCursor) (left uses) later :=
      Stream.afterUses_append _ _ _
    change (left (uses ++ later)).backing.connection.2 = (left uses).backing.connection.2
    rw [happend]
    exact (((hs.settle hclosed).afterUses transformer later).final _ rfl).2

/-- A batch and the closing of the server cursor fail, and a block is left by a failure. -/
theorem releases_cursors_rehearsed :
    let d : DataStream :=
      { schema := "s", id := .int 1, start := .text "-Infinity", stop := .text "Infinity"
        fetchSize := .int 2 }
    let plan : RequestPlan := fun kind n =>
      if (kind = .fetchMany ∨ kind = .closeCursor) ∧ n = 1 then some .database else none
    let uses : List Stream.Use :=
      [.call .nextValue, .call .nextValue, .leave (some (.outage .value)), .call .close]
    let src := source Rehearsal.connection.recorded d
    let s := Stream.afterUses src ((none : Option (Transformer Rehearsal)).map besideCursor)
      { backing := { connection := ({ rows := [[.int 1]], plan }, []) }, template := {} } uses
    uses.any (·.closes) = true ∧ openings s.backing.connection.2 = [0] ∧
      closings s.backing.connection.2 = [0] := by
  intro d plan uses src s
  have huses : uses.any (·.closes) = true := rfl
  obtain ⟨-, hclosed, -⟩ := releases_cursors Rehearsal.connection d none {} []
    { rows := [[.int 1]], plan } uses
  obtain ⟨hsame, -⟩ := hclosed huses
  have hopenings : openings s.backing.connection.2 = [0] := by decide +kernel
  refine ⟨huses, hopenings, ?_⟩
  rw [← hopenings]
  with_reducible exact hsame.symm

end Cursor

end SensorSeries
