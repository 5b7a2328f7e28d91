import Mathlib.Data.List.Forall2
import SensorSeries.Proofs.Stream.Calls
import SensorSeries.Proofs.Stream.Steps

/-!
# Delivery

A source `Delivers` a list if it gives the entities of the list one after the other, and then none,
and always knows its unit. A stream over such a source delivers the list whatever it is asked for in
between: the n-th call for the next entity gives the n-th entity, or the sample made of it
(`Delivered.answers`). The invariant is `Delivered`: the source has been asked as often as the
stream, once more than there are entities at most, and the stream is exhausted after that.
-/

namespace SensorSeries

variable {σ ε : Type}

namespace Source

/-- The sample that an entity makes under a unit. -/
def toSample (src : Source σ ε) (unit : UnitOfMeasure) (e : ε) : Except Failure Sample :=
  match src.convert e with
  | .done s => s
  | .withUnit f => f unit

/-- How the source may answer when it is asked for the n-th entity: with this entity, or, if it may
fail, with a failure that takes none. -/
def Fetched (entities : List ε) (mayFail : Prop) (reached : Nat → σ → Prop) (n : Nat) :
    Except Failure (Option ε) → σ → Prop
  | .ok e, b => e = entities[n]? ∧ reached (n + 1) b
  | .error _, b => mayFail ∧ reached n b

/-- The source gives the entities of a list one after the other and always knows its unit. A state
that is `reached n` has been asked for the next entity n times. -/
structure Delivers (src : Source σ ε) (entities : List ε) (unit : UnitOfMeasure)
    (reached : Nat → σ → Prop) : Prop where
  fetch : ∀ {n b}, reached n b →
    src.fetch.EndsIn b fun a b => a = .ok entities[n]? ∧ reached (n + 1) b
  unit : ∀ {n b}, reached n b → src.unit.EndsIn b fun a b => a = .ok unit ∧ reached n b
  times : ∀ {n b}, reached n b → src.times.EndsIn b fun _ b => reached n b

end Source

namespace Stream

open SensorSeries.Action

/-- A stream that has been asked for the next entity so many times. -/
structure Delivered (entities : List ε) (unit : UnitOfMeasure) (reached : Nat → σ → Prop) (n : Nat)
    (s : Stream σ) : Prop where
  reached : reached (min n (entities.length + 1)) s.backing
  exhausted : s.exhausted = true ↔ entities.length < n
  unit : ∀ u ∈ s.unit.known, u = unit

/-- What a call for the next entity is answered when the source has come to this one. Other calls
may be answered anything. -/
def Call.Delivers (entity : Option ε) (sample : Option Sample) (a : Except Failure (Reply ε)) :
    Call → Prop
  | .nextEntity => a = .ok (.entity entity)
  | .nextValue => a = .ok (.sample sample)
  | _ => True

variable {src : Source σ ε} {transformer : Option (Transformer σ)} {entities : List ε}
  {samples : List Sample} {unit : UnitOfMeasure} {reached : Nat → σ → Prop} {n : Nat}
  {s : Stream σ} {c : Call} {calls : List Call}

/-- A fresh stream has not been asked for anything. -/
theorem Delivered.start {b : σ} (hb : reached 0 b) (template : Observation)
    (options : List (String × Datum)) :
    Delivered entities unit reached 0 { backing := b, template, options } where
  reached := by rwa [Nat.zero_min]
  exhausted := by simp
  unit := nofun

theorem Call.delivers_of_not_next {e : Option ε} {x : Option Sample}
    {a : Except Failure (Reply ε)} (hc : c.isNext = false) : c.Delivers e x a := by
  cases c <;> trivial

/-- Entities and their samples end together. -/
theorem getElem?_cases {R : ε → Sample → Prop} (h : List.Forall₂ R entities samples) (n : Nat) :
    (entities[n]? = none ∧ samples[n]? = none) ∨
      ∃ e x, entities[n]? = some e ∧ samples[n]? = some x ∧ R e x := by
  induction h generalizing n with
  | nil => exact .inl ⟨rfl, rfl⟩
  | @cons e x _ _ hex _ ih =>
    cases n with
    | zero => exact .inr ⟨e, x, rfl, rfl, hex⟩
    | succ n => exact ih n

/-! ## One call -/

/-- The next entity comes once, also from a source that may fail, if a failure takes none. -/
theorem Delivered.nextEntity_or (src : Source σ ε) (mayFail : Prop)
    (hfetch : ∀ {n b}, reached n b → src.fetch.EndsIn b (Source.Fetched entities mayFail reached n))
    (hs : Delivered entities unit reached n s) :
    (nextEntity src).EndsIn s fun
      | .ok e, s => e = entities[n]? ∧ Delivered entities unit reached (n + 1) s
      | .error e, s => mayFail ∧ e.isQuery = true ∧ Delivered entities unit reached n s := by
  rw [endsIn_nextEntity]
  split
  · next hex =>
    -- The source is not asked again, so the state is still the one after the last entity.
    have hn := hs.exhausted.1 hex
    have hmin : min (n + 1) (entities.length + 1) = min n (entities.length + 1) := by omega
    refine ⟨(List.getElem?_eq_none (Nat.le_of_lt hn)).symm, ?_, iff_of_true hex (by omega), hs.unit⟩
    rw [hmin]
    exact hs.reached
  · next hex =>
    have hn : n ≤ entities.length := by
      rw [hs.exhausted] at hex
      omega
    have hmin : min n (entities.length + 1) = n := by omega
    have hmin' : n + 1 = min (n + 1) (entities.length + 1) := by omega
    have hfetch := hfetch (hmin ▸ hs.reached)
    refine hfetch.mono ?_
    rintro (e | e) b hb
    · obtain ⟨hmay, hb⟩ := hb
      exact ⟨hmay, isQuery_report _ _ _, hmin.symm ▸ hb, hs.exhausted, hs.unit⟩
    · obtain ⟨rfl, hb⟩ := hb
      rw [hmin'] at hb
      cases he : entities[n]? with
      | some e =>
        have hlt : n < entities.length := (List.getElem?_eq_some_iff.1 he).1
        exact ⟨rfl, hb, iff_of_false hex (by omega), hs.unit⟩
      | none =>
        rw [List.getElem?_eq_none_iff] at he
        exact ⟨rfl, hb, iff_of_true rfl (by omega), hs.unit⟩

section Step

variable (h : src.Delivers entities unit reached)

include h

theorem Delivered.nextEntity (hs : Delivered entities unit reached n s) :
    (nextEntity src).EndsIn s fun a s =>
      a = .ok entities[n]? ∧ Delivered entities unit reached (n + 1) s := by
  have hfetch {n b} (hb : reached n b) :
      src.fetch.EndsIn b (Source.Fetched entities False reached n) := by
    refine (h.fetch hb).mono ?_
    rintro _ b ⟨rfl, hb⟩
    exact ⟨rfl, hb⟩
  refine (hs.nextEntity_or src False hfetch).mono ?_
  rintro (e | e) s hs
  · exact hs.1.elim
  · exact ⟨congrArg _ hs.1, hs.2⟩

theorem Delivered.readUnit (hs : Delivered entities unit reached n s) :
    (readUnit src).EndsIn s fun a s => a = .ok unit ∧ Delivered entities unit reached n s := by
  rw [endsIn_readUnit]
  split
  · next u hu => exact ⟨by rw [hs.unit u hu], hs⟩
  · refine (h.unit hs.reached).mono ?_
    rintro _ b ⟨rfl, hb⟩
    refine ⟨rfl, hb, hs.exhausted, ?_⟩
    rintro u ⟨⟩
    rfl

theorem Delivered.readTimes (hs : Delivered entities unit reached n s) :
    (readTimes src).EndsIn s fun _ s => Delivered entities unit reached n s := by
  refine (readTimes_frame src s (h.times hs.reached) hs.reached).mono ?_
  rintro _ _ ⟨b, times, rfl, hb⟩
  exact ⟨hb, hs.exhausted, hs.unit⟩

theorem Delivered.convert {e : ε} {x : Sample} (he : src.toSample unit e = .ok x)
    (hs : Delivered entities unit reached n s) :
    (convert src e).EndsIn s fun a s => a = .ok x ∧ Delivered entities unit reached n s := by
  unfold Stream.convert
  unfold Source.toSample at he
  cases hc : src.convert e with
  | done a =>
    rw [hc] at he
    exact ⟨he, hs⟩
  | withUnit f =>
    rw [hc] at he
    refine (hs.readUnit h).bind_ok fun s hs => ?_
    exact ⟨he, hs⟩

theorem Delivered.nextValue
    (hsamples : List.Forall₂ (fun e x => src.toSample unit e = .ok x) entities samples)
    (hs : Delivered entities unit reached n s) :
    (nextValue src).EndsIn s fun a s =>
      a = .ok samples[n]? ∧ Delivered entities unit reached (n + 1) s := by
  refine (hs.nextEntity h).bind_ok fun s hs => ?_
  obtain ⟨he, hx⟩ | ⟨e, x, he, hx, hconvert⟩ := getElem?_cases hsamples n
  · rw [he, hx]
    exact ⟨rfl, hs⟩
  · rw [he, hx]
    have hguarded : (guarded src .converting (Stream.convert src e)).EndsIn s fun a s =>
        a = .ok x ∧ Delivered entities unit reached (n + 1) s := by
      rw [endsIn_guarded]
      refine (hs.convert h hconvert).mono ?_
      rintro _ s ⟨rfl, hs⟩
      exact ⟨rfl, hs⟩
    exact hguarded.bind_ok fun s hs => ⟨rfl, hs⟩

/-- A batch of samples is what comes next, as much as there is of it. -/
theorem Delivered.take
    (hsamples : List.Forall₂ (fun e x => src.toSample unit e = .ok x) entities samples) (k : Nat)
    (hs : Delivered entities unit reached n s) :
    (take src k).EndsIn s fun a s =>
      a = .ok ((samples.drop n).take k) ∧ ∃ m, Delivered entities unit reached m s := by
  induction k generalizing n s with
  | zero => exact ⟨by rw [List.take_zero]; rfl, n, hs⟩
  | succ k ih =>
    refine (hs.nextValue h hsamples).bind_ok fun s hs => ?_
    cases hx : samples[n]? with
    | none =>
      rw [List.drop_of_length_le (List.getElem?_eq_none_iff.1 hx), List.take_nil]
      exact ⟨rfl, n + 1, hs⟩
    | some x =>
      obtain ⟨hn, hx⟩ := List.getElem?_eq_some_iff.1 hx
      rw [List.drop_eq_getElem_cons hn, hx, List.take_succ_cons]
      exact (ih hs).bind_ok fun s hs => ⟨rfl, hs⟩

/-- **One call**: a call for the next entity is answered with it, and every call leaves a stream
that has been asked for as many entities as there were such calls. -/
theorem Delivered.perform (transformer : Option (Transformer σ))
    (hsamples : List.Forall₂ (fun e x => src.toSample unit e = .ok x) entities samples)
    (hs : Delivered entities unit reached n s) (hc : c.isRead = true) :
    (c.perform src transformer).EndsIn s fun a s =>
      c.Delivers entities[n]? samples[n]? a ∧
        Delivered entities unit reached (n + if c.isNext then 1 else 0) s := by
  cases hnext : c.isNext with
  | true =>
    cases c with
    | nextEntity => exact (hs.nextEntity h).bind_ok fun s hs => ⟨rfl, hs⟩
    | nextValue => exact (hs.nextValue h hsamples).bind_ok fun s hs => ⟨rfl, hs⟩
    | _ => cases hnext
  | false =>
    have hstep : (c.perform src transformer).EndsIn s fun _ s =>
        Delivered entities unit reached n s :=
      Call.perform_preserves (fun s hs => (Delivered.readUnit h hs).mono fun a s hs => hs.2)
        (fun s hs => Delivered.readTimes h hs) hc hnext hs
    exact hstep.mono fun a s hs => ⟨Call.delivers_of_not_next hnext, hs⟩

/-! ## Lists of calls -/

/-- **Every call for the next entity is answered with it**, as it is or as a sample, and with none
when there is none left. -/
theorem Delivered.answers
    (hsamples : List.Forall₂ (fun e x => src.toSample unit e = .ok x) entities samples)
    (hs : Delivered entities unit reached n s) (hcalls : ∀ c ∈ calls, c.isRead = true) {i : Nat}
    {a : Except Failure (Reply ε)}
    (hi : ((trace src transformer s calls).filter (·.1.isNext))[i]? = some (c, a)) :
    c.Delivers entities[n + i]? samples[n + i]? a := by
  induction calls generalizing s n i with
  | nil => cases hi
  | cons first calls ih =>
    obtain ⟨hfirst, hcalls⟩ := List.forall_mem_cons.1 hcalls
    obtain ⟨ha, hs⟩ := hs.perform h transformer hsamples hfirst
    rw [trace] at hi
    cases hnext : first.isNext with
    | false =>
      rw [hnext] at hs
      rw [List.filter_cons_of_neg (by simpa using hnext)] at hi
      exact ih hs hcalls hi
    | true =>
      rw [hnext] at hs
      rw [List.filter_cons_of_pos (by exact hnext)] at hi
      cases i with
      | zero =>
        cases hi
        exact ha
      | succ i =>
        have hn : n + (i + 1) = n + 1 + i := by omega
        rw [hn]
        exact ih hs hcalls hi

theorem Delivered.after (transformer : Option (Transformer σ))
    (hsamples : List.Forall₂ (fun e x => src.toSample unit e = .ok x) entities samples)
    (hs : Delivered entities unit reached n s) (hcalls : ∀ c ∈ calls, c.isRead = true) :
    Delivered entities unit reached (n + calls.countP (·.isNext))
      (after src transformer s calls) := by
  induction calls generalizing s n with
  | nil => exact hs
  | cons c calls ih =>
    obtain ⟨hc, hcalls⟩ := List.forall_mem_cons.1 hcalls
    have hn : n + (c :: calls).countP (·.isNext) =
        n + (if c.isNext then 1 else 0) + calls.countP (·.isNext) := by
      rw [List.countP_cons]
      omega
    rw [hn, after_cons]
    exact ih (hs.perform h transformer hsamples hc).2 hcalls

/-- A stream that has answered that there is no entity left is exhausted. -/
theorem Delivered.exhausted_of_isEnd
    (hsamples : List.Forall₂ (fun e x => src.toSample unit e = .ok x) entities samples)
    (hs : Delivered entities unit reached 0 s) (hcalls : ∀ c ∈ calls, c.isRead = true)
    {r : Reply ε} (hc : c.isNext = true) (hr : r.isEnd = true)
    (hmem : (c, .ok r) ∈ trace src transformer s calls) :
    (Stream.after src transformer s calls).exhausted = true := by
  obtain ⟨i, hi⟩ := List.mem_iff_getElem?.1
    (List.mem_filter.2 ⟨hmem, hc⟩ : _ ∈ (trace src transformer s calls).filter (·.1.isNext))
  have hlt : i < calls.countP (·.isNext) :=
    Nat.lt_of_lt_of_eq (List.getElem?_eq_some_iff.1 hi).1 (length_filter_trace s calls)
  have hnone : entities[i]? = none := by
    have ha := hs.answers h hsamples hcalls hi
    rw [Nat.zero_add] at ha
    obtain ⟨he, -⟩ | ⟨e, x, he, hx, -⟩ := getElem?_cases hsamples i
    · exact he
    · rw [he, hx] at ha
      cases c with
      | nextEntity | nextValue =>
        cases ha
        cases hr
      | _ => cases hc
  rw [(hs.after h transformer hsamples hcalls).exhausted, Nat.zero_add]
  exact Nat.lt_of_le_of_lt (List.getElem?_eq_none_iff.1 hnone) hlt

end Step

/-! ## After the end -/

/-- An exhausted stream asks the source for nothing but the unit and the times. -/
theorem after_of_exhausted {P : σ → Prop} (hunit : ∀ b, P b → src.unit.EndsIn b fun _ b => P b)
    (htimes : ∀ b, P b → src.times.EndsIn b fun _ b => P b)
    (hcalls : ∀ c ∈ calls, c.isRead = true) (hs : s.exhausted = true) (hb : P s.backing) :
    P (after src transformer s calls).backing := by
  let Resting (s : Stream σ) : Prop := s.exhausted = true ∧ P s.backing
  have hreadUnit (s : Stream σ) (hs : Resting s) :
      (readUnit src).EndsIn s fun _ s => Resting s := by
    refine (readUnit_frame src s (hunit _ hs.2) hs.2).mono ?_
    rintro _ _ ⟨b, unit, rfl, hb⟩
    exact ⟨hs.1, hb⟩
  have hreadTimes (s : Stream σ) (hs : Resting s) :
      (readTimes src).EndsIn s fun _ s => Resting s := by
    refine (readTimes_frame src s (htimes _ hs.2) hs.2).mono ?_
    rintro _ _ ⟨b, times, rfl, hb⟩
    exact ⟨hs.1, hb⟩
  have hnextEntity (s : Stream σ) (hs : Resting s) :
      (nextEntity src).EndsIn s fun a s => a = .ok none ∧ Resting s := by
    rw [endsIn_nextEntity, if_pos hs.1]
    exact ⟨rfl, hs⟩
  refine (after_preserves (P := Resting) ⟨hs, hb⟩ ?_).2
  intro c hc s hs
  cases hnext : c.isNext with
  | false => exact Call.perform_preserves hreadUnit hreadTimes (hcalls c hc) hnext hs
  | true =>
    cases c with
    | nextEntity => exact (hnextEntity s hs).bind_ok fun s hs => hs
    | nextValue =>
      have hnextValue : (nextValue src).EndsIn s fun _ s => Resting s :=
        (hnextEntity s hs).bind_ok fun s hs => hs
      exact hnextValue.bind_state fun a s hs => hs
    | _ => cases hnext

end Stream

end SensorSeries
