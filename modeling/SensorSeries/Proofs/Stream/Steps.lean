import SensorSeries.Proofs.Stream.Outcomes
import SensorSeries.Stream.Basic

/-!
# What the operations of a stream do

One rule for each operation that reaches the source: when it asks the source at all, what the answer
makes of the stream, and what the reader gets. The source is asked for the next entity unless the
stream is exhausted, for the unit and the times unless they are known, and to release what it holds
unless the stream is closed. No answer but the last one exhausts the stream, and only an answer makes
unit and times known. Everything else stays as it is, which is what the frame of an operation says.
-/

namespace SensorSeries

namespace Memo

open SensorSeries.Action

variable {σ α : Type}

theorem endsIn_get (compute : Action σ α) (m : Memo α) (s : σ)
    (Q : Except Failure α → Memo α × σ → Prop) :
    (get compute).EndsIn (m, s) Q ↔
      match m.known with
      | some a => Q (.ok a) (m, s)
      | none => compute.EndsIn s fun
        | .ok a, t => Q (.ok a) (ofValue a, t)
        | .error e, t => Q (.error e) (m, t) := by
  rw [get, endsIn_bind, Action.endsIn_get, continues_ok]
  cases hm : m.known with
  | some a => exact .rfl
  | none =>
    simp only [endsIn_bind, endsIn_onSecond]
    unfold EndsIn
    cases (compute.run s).answer <;> rfl

end Memo

namespace Stream

open SensorSeries.Action

variable {σ ε α : Type} (src : Source σ ε) (s : Stream σ) {P : σ → Prop}

/-- What the reader is told of a failure of the source. -/
def report (stage : Stage) (e : Failure) : Failure :=
  if e.isQuery then e else .stream src.name stage e

@[simp] theorem endsIn_onBacking (x : Action σ α) (Q : Except Failure α → Stream σ → Prop) :
    (onBacking x).EndsIn s Q ↔ x.EndsIn s.backing fun a b => Q a { s with backing := b } := .rfl

theorem endsIn_guarded (stage : Stage) (x : Action (Stream σ) α)
    (Q : Except Failure α → Stream σ → Prop) :
    (guarded src stage x).EndsIn s Q ↔
      x.EndsIn s fun a t => Q (a.mapError (report src stage)) t := by
  rw [guarded, endsIn_orElse]
  unfold EndsIn
  cases (x.run s).answer <;> rfl

/-- The next entity comes from the source, until there is none. -/
theorem endsIn_nextEntity (Q : Except Failure (Option ε) → Stream σ → Prop) :
    (nextEntity src).EndsIn s Q ↔
      if s.exhausted then Q (.ok none) s
      else src.fetch.EndsIn s.backing fun
        | .ok (some e), b => Q (.ok (some e)) { s with backing := b }
        | .ok none, b => Q (.ok none) { s with backing := b, exhausted := true }
        | .error e, b => Q (.error (report src .fetching e)) { s with backing := b } := by
  rw [nextEntity, endsIn_bind, Action.endsIn_get, continues_ok]
  by_cases hs : s.exhausted = true
  · rw [if_pos hs, if_pos hs, endsIn_pure]
  · rw [if_neg hs, if_neg hs]
    simp only [endsIn_bind, endsIn_guarded, endsIn_onBacking]
    unfold EndsIn
    rcases (src.fetch.run s.backing).answer with e | _ | e <;> rfl

theorem nextEntity_frame (h : src.fetch.EndsIn s.backing fun _ b => P b) (hs : P s.backing) :
    (nextEntity src).EndsIn s fun _ t =>
      ∃ b exhausted, t = { s with backing := b, exhausted } ∧ P b := by
  rw [endsIn_nextEntity]
  split
  · exact ⟨s.backing, s.exhausted, rfl, hs⟩
  · refine h.mono ?_
    rintro (e | _ | e) b hb
    · exact ⟨b, s.exhausted, rfl, hb⟩
    · exact ⟨b, true, rfl, hb⟩
    · exact ⟨b, s.exhausted, rfl, hb⟩

/-- The unit comes from the source, once. -/
theorem endsIn_readUnit (Q : Except Failure UnitOfMeasure → Stream σ → Prop) :
    (readUnit src).EndsIn s Q ↔
      match s.unit.known with
      | some u => Q (.ok u) s
      | none => src.unit.EndsIn s.backing fun
        | .ok u, b => Q (.ok u) { s with backing := b, unit := .ofValue u }
        | .error e, b => Q (.error (report src .queryingUnit e)) { s with backing := b } := by
  rw [readUnit, endsIn_zoom, Memo.endsIn_get]
  cases s.unit.known with
  | some u => exact .rfl
  | none =>
    simp only [queryUnit, endsIn_bind, endsIn_note, continues_ok, endsIn_guarded, endsIn_onBacking]
    unfold EndsIn
    cases (src.unit.run s.backing).answer <;> rfl

theorem readUnit_frame (h : src.unit.EndsIn s.backing fun _ b => P b) (hs : P s.backing) :
    (readUnit src).EndsIn s fun _ t => ∃ b unit, t = { s with backing := b, unit } ∧ P b := by
  rw [endsIn_readUnit]
  split
  · exact ⟨s.backing, s.unit, rfl, hs⟩
  · refine h.mono ?_
    rintro (e | u) b hb
    · exact ⟨b, s.unit, rfl, hb⟩
    · exact ⟨b, .ofValue u, rfl, hb⟩

/-- The times come from the source, once; a source that knows of none has none. -/
theorem endsIn_readTimes (Q : Except Failure Times → Stream σ → Prop) :
    (readTimes src).EndsIn s Q ↔
      match s.times.known with
      | some t => Q (.ok (t.getD {})) s
      | none => src.times.EndsIn s.backing fun
        | .ok t, b => Q (.ok (t.getD {})) { s with backing := b, times := .ofValue t }
        | .error e, b => Q (.error (report src .queryingTimes e)) { s with backing := b } := by
  rw [readTimes, endsIn_bind, endsIn_zoom, Memo.endsIn_get]
  cases s.times.known with
  | some t => exact .rfl
  | none =>
    simp only [queryTimes, endsIn_bind, endsIn_note, continues_ok, endsIn_guarded, endsIn_onBacking]
    unfold EndsIn
    cases (src.times.run s.backing).answer <;> rfl

theorem readTimes_frame (h : src.times.EndsIn s.backing fun _ b => P b) (hs : P s.backing) :
    (readTimes src).EndsIn s fun _ t => ∃ b times, t = { s with backing := b, times } ∧ P b := by
  rw [endsIn_readTimes]
  split
  · exact ⟨s.backing, s.times, rfl, hs⟩
  · refine h.mono ?_
    rintro (e | t) b hb
    · exact ⟨b, s.times, rfl, hb⟩
    · exact ⟨b, .ofValue t, rfl, hb⟩

/-- What is reported is reported as it is. -/
@[simp] theorem isQuery_report (stage : Stage) (e : Failure) :
    (report src stage e).isQuery = true := by
  unfold report
  split
  · assumption
  · rfl

theorem report_of_isQuery (stage : Stage) {e : Failure} (h : e.isQuery = true) :
    report src stage e = e :=
  if_pos h

/-- The source is released once; the stream is closed before it is. -/
theorem endsIn_close (Q : Except Failure Unit → Stream σ → Prop) :
    (close src).EndsIn s Q ↔
      if s.closed then Q (.ok ()) s
      else src.release.EndsIn s.backing fun a b =>
        Q a { s with backing := b, exhausted := true, closed := true } := by
  rw [close, endsIn_bind, Action.endsIn_get, continues_ok]
  by_cases hs : s.closed = true
  · rw [if_pos hs, if_pos hs, endsIn_pure]
  · rw [if_neg hs, if_neg hs]
    simp only [endsIn_bind, endsIn_modify, continues_ok, endsIn_onBacking]
    unfold EndsIn
    cases (src.release.run s.backing).answer <;> rfl

end Stream

end SensorSeries
