import SensorSeries.Proofs.Stream.Mirrors
import SensorSeries.Proofs.Stream.Replies
import SensorSeries.Rehearsal.Source

/-!
# Unit and times of the whole

A stream asks its source for the unit until it has been told one, or has been assigned one, and for
the times until it has been told them. `Source.recorded` lists these queries with their answers;
`settledUnit` and `settledTimes` read off such a list what a reader is to be told. That a source
knows of no times, or has no unit, is an answer as well; a failure is none.

The invariant is `Tracks`: what a stream knows is what the list settles, separately for the unit and
for the times. From it follows which queries a call makes, how it fails, and what it answers
(`resolves_once`); `Reads` tells what a read of the unit or the times asks and answers. The list
itself cannot be seen by the reader (`Source.recorded_wraps`).
-/

namespace SensorSeries

/-- What a source was asked for, and its answer. -/
inductive Inquiry where
  | unit (answer : Except Failure UnitOfMeasure)
  | times (answer : Except Failure (Option Times))

namespace Inquiry

/-- The unit that a query was answered with. -/
def unit? : Inquiry → Option UnitOfMeasure
  | .unit (.ok u) => some u
  | _ => none

/-- The times that a query was answered with. -/
def times? : Inquiry → Option (Option Times)
  | .times (.ok t) => some t
  | _ => none

def answeredUnits (log : List Inquiry) : List UnitOfMeasure := log.filterMap unit?

def answeredTimes (log : List Inquiry) : List (Option Times) := log.filterMap times?

@[simp] theorem answeredUnits_concat (log : List Inquiry) (q : Inquiry) :
    answeredUnits (log ++ [q]) = answeredUnits log ++ q.unit?.toList := by
  unfold answeredUnits
  rw [List.filterMap_append]
  cases hq : q.unit? <;> simp [hq]

@[simp] theorem answeredTimes_concat (log : List Inquiry) (q : Inquiry) :
    answeredTimes (log ++ [q]) = answeredTimes log ++ q.times?.toList := by
  unfold answeredTimes
  rw [List.filterMap_append]
  cases hq : q.times? <;> simp [hq]

/-- Whether a query may be made, if this unit was assigned and these queries were made before. -/
def Permitted (assigned : Option UnitOfMeasure) (log : List Inquiry) : Inquiry → Prop
  | .unit _ => assigned = none ∧ answeredUnits log = []
  | .times _ => answeredTimes log = []

/-- Each of the queries may be made when it is made, after the earlier ones of the log. -/
def Lawful (assigned : Option UnitOfMeasure) (log new : List Inquiry) : Prop :=
  ∀ xs q ys, new = xs ++ q :: ys → q.Permitted assigned (log ++ xs)

theorem lawful_nil (assigned : Option UnitOfMeasure) (log : List Inquiry) :
    Lawful assigned log [] := by
  intro xs q ys h
  simp at h

theorem Lawful.concat {assigned : Option UnitOfMeasure} {log new : List Inquiry} {q : Inquiry}
    (hnew : Lawful assigned log new) (hq : q.Permitted assigned (log ++ new)) :
    Lawful assigned log (new ++ [q]) := by
  intro xs p ys hsplit
  rcases List.eq_nil_or_concat ys with rfl | ⟨ys, y, rfl⟩
  · obtain ⟨rfl, hp⟩ := List.append_inj' hsplit rfl
    cases hp
    exact hq
  · have hsplit : new ++ [q] = (xs ++ p :: ys) ++ [y] := by simpa using hsplit
    exact hnew xs p ys (List.append_inj_left' hsplit rfl)

/-- What the reader is told if a query fails. -/
def failure {σ ε : Type} (src : Source σ ε) : Inquiry → Option Failure
  | .unit (.error e) => some (Stream.report src .queryingUnit e)
  | .times (.error e) => some (Stream.report src .queryingTimes e)
  | _ => none

theorem isQuery_failure {σ ε : Type} {src : Source σ ε} {q : Inquiry} {e : Failure}
    (h : q.failure src = some e) : e.isQuery = true := by
  rcases q with (_ | _) | (_ | _)
  · cases h
    exact Stream.isQuery_report src _ _
  · cases h
  · cases h
    exact Stream.isQuery_report src _ _
  · cases h

/-- What a read is told: what is settled, and then nothing was asked for; or else the answer to one
query, whose failure is reported. -/
def Reads {α : Type} (ask : Except Failure α → Inquiry) (report : Failure → Failure) :
    Option α → List Inquiry → Except Failure α → Prop
  | some x, new, told => new = [] ∧ told = .ok x
  | none, new, told => ∃ answer, new = [ask answer] ∧ told = answer.mapError report

theorem Reads.forall_mem {α : Type} {ask : Except Failure α → Inquiry} {report : Failure → Failure}
    {settled : Option α} {new : List Inquiry} {told : Except Failure α} {P : Inquiry → Prop}
    (h : Reads ask report settled new told) (hask : ∀ answer, P (ask answer)) : ∀ q ∈ new, P q := by
  cases settled with
  | some x =>
    obtain ⟨rfl, -⟩ := h
    exact List.forall_mem_nil P
  | none =>
    obtain ⟨answer, rfl, -⟩ := h
    exact List.forall_mem_singleton.2 (hask answer)

end Inquiry

namespace Source

open SensorSeries.Action Inquiry

variable {σ ε α : Type}

/-- Lists how a query was answered. -/
def recording (q : Except Failure α → Inquiry) (x : Action σ α) :
    Action (σ × List Inquiry) α := do
  let a ← (onFirst x).attempt
  Action.modify fun (b, log) => (b, log ++ [q a])
  Action.lift a

/-- A source that lists what it is asked for the whole. -/
def recorded (src : Source σ ε) : Source (σ × List Inquiry) ε :=
  { src.beside with
    unit := recording .unit src.unit
    times := recording .times src.times }

/-- Listing the queries of a source changes nothing about it. -/
theorem recorded_wraps (src : Source σ ε) : src.recorded.Wraps src where
  name_eq := rfl
  fetch _ := ⟨rfl, rfl⟩
  unit _ := ⟨rfl, rfl⟩
  times _ := ⟨rfl, rfl⟩
  release _ := ⟨rfl, rfl⟩
  convert_eq := rfl
  pending_eq _ := rfl

theorem endsIn_recording (q : Except Failure α → Inquiry) (x : Action σ α) (b : σ × List Inquiry)
    (Q : Except Failure α → σ × List Inquiry → Prop) :
    (recording q x).EndsIn b Q ↔ x.EndsIn b.1 fun a b' => Q a (b', b.2 ++ [q a]) := by
  unfold EndsIn
  rfl

end Source

namespace Stream

open SensorSeries.Action Inquiry

variable {σ ε : Type} {src : Source σ ε} {transformer : Option (Transformer σ)}

/-! ## What is settled -/

/-- The unit that a call assigns. -/
def Call.assignment : Call → Option UnitOfMeasure
  | .setUnit u => some u
  | _ => none

/-- The unit that was assigned last. -/
def assigned (calls : List Call) : Option UnitOfMeasure :=
  (calls.filterMap Call.assignment).getLast?

/-- The unit that was assigned last, or the one that was answered. -/
def settledUnit (calls : List Call) (log : List Inquiry) : Option UnitOfMeasure :=
  (assigned calls).or (answeredUnits log).head?

/-- The times that were answered. -/
def settledTimes (log : List Inquiry) : Option (Option Times) := (answeredTimes log).head?

@[simp] theorem assigned_singleton (c : Call) : assigned [c] = c.assignment := by
  unfold assigned
  cases hc : c.assignment <;> simp [hc]

theorem assigned_append (xs ys : List Call) :
    assigned (xs ++ ys) = (assigned ys).or (assigned xs) := by
  unfold assigned
  rw [List.filterMap_append, List.getLast?_append]

/-- A stream knows what is settled, if this is the unit that it was given. -/
structure Tracks (given : Option UnitOfMeasure) (s : Stream (σ × List Inquiry)) : Prop where
  unit : s.unit.known = given.or (answeredUnits s.backing.2).head?
  times : s.times.known = settledTimes s.backing.2

/-- A call has made permitted queries so far; if one of them has failed, so has the call. -/
structure Inquires (src : Source σ ε) (given : Option UnitOfMeasure) (log : List Inquiry)
    (thrown : Option Failure) (s : Stream (σ × List Inquiry)) : Prop extends Tracks given s where
  since : ∃ new, s.backing.2 = log ++ new ∧ Lawful given log new ∧
    ∀ q ∈ new, ∀ e, q.failure src = some e → thrown = some e

variable {s t : Stream (σ × List Inquiry)} {given : Option UnitOfMeasure} {log : List Inquiry}
  {thrown : Option Failure}

/-- The next entity has nothing to do with unit and times. -/
theorem endsIn_nextEntity_recorded (src : Source σ ε) (s : Stream (σ × List Inquiry)) :
    (nextEntity src.recorded).EndsIn s fun _ t =>
      t.unit = s.unit ∧ t.times = s.times ∧ t.backing.2 = s.backing.2 := by
  have hfetch : src.recorded.fetch.EndsIn s.backing fun _ b => b.2 = s.backing.2 :=
    (endsIn_onFirst ..).2 (EndsIn.of_forall _ _ fun _ _ => rfl)
  refine (nextEntity_frame src.recorded s hfetch rfl).mono ?_
  rintro _ _ ⟨b, exhausted, rfl, hb⟩
  exact ⟨rfl, rfl, hb⟩

theorem Tracks.start (b : σ) (template : Observation) (options : List (String × Datum)) :
    Tracks none { backing := (b, []), template, options } where
  unit := rfl
  times := rfl

/-- A call that has made no query yet may still fail with anything. -/
theorem Tracks.inquires (src : Source σ ε) (hs : Tracks given s) :
    Inquires src given s.backing.2 thrown s where
  toTracks := hs
  since := ⟨[], by simp, lawful_nil _ _, by simp⟩

namespace Inquires

theorem unchanged (hs : Inquires src given log none s) (hunit : t.unit = s.unit)
    (htimes : t.times = s.times) (hlog : t.backing.2 = s.backing.2) :
    Inquires src given log thrown t where
  unit := by rw [hunit, hlog, hs.unit]
  times := by rw [htimes, hlog, hs.times]
  since := by
    obtain ⟨new, hnew, hlawful, hfailed⟩ := hs.since
    refine ⟨new, hlog.trans hnew, hlawful, ?_⟩
    intro q hq e he
    cases hfailed q hq e he

/-- One more query that is permitted. -/
theorem concat (hs : Inquires src given log none s) {q : Inquiry}
    (hq : q.Permitted given s.backing.2) (hlog : t.backing.2 = s.backing.2 ++ [q])
    (ht : Tracks given t) (hthrown : ∀ e, q.failure src = some e → thrown = some e) :
    Inquires src given log thrown t where
  toTracks := ht
  since := by
    obtain ⟨new, hnew, hlawful, hfailed⟩ := hs.since
    rw [hnew] at hq
    refine ⟨new ++ [q], by rw [hlog, hnew, List.append_assoc], hlawful.concat hq, ?_⟩
    intro p hp e he
    rcases List.mem_append.1 hp with hp | hp
    · cases hfailed p hp e he
    · cases List.mem_singleton.1 hp
      exact hthrown e he

theorem nextEntity (hs : Inquires src given log none s) :
    (nextEntity src.recorded).EndsIn s fun a s => Inquires src given log (failureOf a) s := by
  refine (endsIn_nextEntity_recorded src s).mono ?_
  rintro a t ⟨hunit, htimes, hlog⟩
  exact hs.unchanged hunit htimes hlog

theorem readUnit (hs : Inquires src given log none s) :
    (readUnit src.recorded).EndsIn s fun a s => Inquires src given log (failureOf a) s := by
  rw [endsIn_readUnit]
  split
  · exact hs
  · next hnone =>
    -- No unit is known, so none was given, and no query has answered one.
    have hopen : given = none ∧ answeredUnits s.backing.2 = [] := by
      have h := hs.unit
      rw [hnone] at h
      simpa using h.symm
    obtain ⟨rfl, hunits⟩ := hopen
    refine (Source.endsIn_recording ..).2 (EndsIn.of_forall src.unit s.backing.1 ?_)
    rintro (e | u) b
    · refine hs.concat (q := .unit (.error e)) ⟨rfl, hunits⟩ rfl ⟨?_, ?_⟩ fun f hf => hf
      · simp [unit?, hunits, hnone]
      · simp [settledTimes, times?, hs.times]
    · refine hs.concat (q := .unit (.ok u)) ⟨rfl, hunits⟩ rfl ⟨?_, ?_⟩ nofun
      · simp [unit?, hunits, Memo.ofValue]
      · simp [settledTimes, times?, hs.times]

theorem readTimes (hs : Inquires src given log none s) :
    (readTimes src.recorded).EndsIn s fun a s => Inquires src given log (failureOf a) s := by
  rw [endsIn_readTimes]
  split
  · exact hs
  · next hnone =>
    have htimes : answeredTimes s.backing.2 = [] := by
      have h := hs.times
      rw [hnone] at h
      simpa [settledTimes] using h.symm
    refine (Source.endsIn_recording ..).2 (EndsIn.of_forall src.times s.backing.1 ?_)
    rintro (e | a) b
    · refine hs.concat (q := .times (.error e)) htimes rfl ⟨?_, ?_⟩ fun f hf => hf
      · simp [unit?, hs.unit]
      · simp [settledTimes, times?, htimes, hnone]
    · refine hs.concat (q := .times (.ok a)) htimes rfl ⟨?_, ?_⟩ nofun
      · simp [unit?, hs.unit]
      · simp [settledTimes, times?, htimes, Memo.ofValue]

theorem close (hs : Inquires src given log none s) :
    (close src.recorded).EndsIn s fun a s => Inquires src given log (failureOf a) s := by
  rw [endsIn_close]
  split
  · exact hs
  · exact (endsIn_onFirst ..).2 (EndsIn.of_forall src.release s.backing.1 fun a b =>
      hs.unchanged rfl rfl rfl)

theorem modified (ps : ParameterSet) (hs : Inquires src given log none s) :
    (modified (transformer.map (·.onFirst)) ps).EndsIn s fun _ s =>
      Inquires src given log none s := by
  refine (modified_onFirst_frame s ps).mono ?_
  rintro _ t ⟨b, rfl, hb⟩
  exact hs.unchanged rfl rfl hb

/-- A failure that the reader was told of is passed on as it is. -/
theorem keeps : Keeps src.recorded (Inquires src given log) where
  nextEntity hs := hs.nextEntity
  readUnit hs := hs.readUnit
  fail _ hs := hs.unchanged rfl rfl rfl
  report {s e} stage hs := by
    obtain ⟨new, hnew, hlawful, hfailed⟩ := hs.since
    refine ⟨hs.toTracks, new, hnew, hlawful, ?_⟩
    intro q hq f hf
    cases hfailed q hq f hf
    rw [report_of_isQuery _ _ (isQuery_failure hf)]

end Inquires

/-! ## Calls -/

/-- **One call** makes only permitted queries, and fails if one of them does; it leaves a stream that
knows what is settled then. -/
theorem Tracks.perform (src : Source σ ε) (transformer : Option (Transformer σ))
    (hs : Tracks given s) (c : Call) :
    (c.perform src.recorded (transformer.map (·.onFirst))).EndsIn s fun a t =>
      Tracks (c.assignment.or given) t ∧ ∃ new, t.backing.2 = s.backing.2 ++ new ∧
        Lawful given s.backing.2 new ∧ ∀ q ∈ new, ∀ e, q.failure src = some e → a = .error e := by
  by_cases hset : ∃ u, c = .setUnit u
  · obtain ⟨u, rfl⟩ := hset
    refine ⟨⟨rfl, hs.times⟩, [], ?_, lawful_nil _ _, by simp⟩
    rw [List.append_nil]
    rfl
  · have hassignment : c.assignment = none := by
      cases c with
      | setUnit u => exact absurd ⟨u, rfl⟩ hset
      | _ => rfl
    rw [hassignment, Option.none_or]
    refine (Inquires.keeps.perform Inquires.readTimes Inquires.modified c (fun _ => Inquires.close)
      (fun u hu _ => absurd ⟨u, hu⟩ hset) (hs.inquires src)).mono ?_
    intro a t ht
    obtain ⟨new, hnew, hlawful, hfailed⟩ := ht.since
    exact ⟨ht.toTracks, new, hnew, hlawful, fun q hq e he => failureOf_eq_some.1 (hfailed q hq e he)⟩

/-- A stream knows what is settled after any calls. -/
theorem Tracks.after (src : Source σ ε) (transformer : Option (Transformer σ))
    (hs : Tracks given s) (calls : List Call) :
    Tracks ((assigned calls).or given)
      (after src.recorded (transformer.map (·.onFirst)) s calls) := by
  induction calls generalizing s given with
  | nil => exact hs
  | cons c calls ih =>
    have h := ih (hs.perform src transformer c).1
    have hassigned : assigned (c :: calls) = (assigned calls).or c.assignment := by
      rw [← assigned_singleton, ← assigned_append]
      rfl
    rw [hassigned, Option.or_assoc]
    exact h

/-! ## Reads -/

/-- What is replied to a call for the unit. -/
def Call.unitReply : Call → Option (UnitOfMeasure → Reply ε)
  | .unit => some .unit
  | .isSetUnit => some fun u => .flag !u.isMissing
  | _ => none

/-- What is replied to a call for the times of a source, which may know of none. A time that cannot be
asked whether it is set makes the call fail. -/
def Call.timesReply : Call → Option (Option Times → Except Failure (Reply ε))
  | .times => some fun known => .ok (.times (known.getD {}))
  | .isSetPhenomenonTime => some fun known =>
    (Time.isSetOption (known.getD {}).phenomenon).map .flag
  | .isSetResultTime => some fun known => .ok (.flag ((known.getD {}).result.any (·.isSet)))
  | .isSetValidTime => some fun known => (Time.isSetOption (known.getD {}).valid).map .flag
  | _ => none

/-- A stream that knows its unit does not ask for it; another one asks once. -/
theorem endsIn_readUnit_reads (src : Source σ ε) (s : Stream (σ × List Inquiry)) :
    (readUnit src.recorded).EndsIn s fun a t => ∃ new, t.backing.2 = s.backing.2 ++ new ∧
      Reads .unit (report src .queryingUnit) s.unit.known new a := by
  rw [endsIn_readUnit]
  split
  · next u hu =>
    rw [hu]
    exact ⟨[], by simp, rfl, rfl⟩
  · next hnone =>
    rw [hnone]
    refine (Source.endsIn_recording ..).2 (EndsIn.of_forall src.unit s.backing.1 ?_)
    rintro (e | u) b
    · exact ⟨_, rfl, .error e, rfl, rfl⟩
    · exact ⟨_, rfl, .ok u, rfl, rfl⟩

theorem endsIn_readTimes_reads (src : Source σ ε) (s : Stream (σ × List Inquiry)) :
    (readTimes src.recorded).EndsIn s fun a t => ∃ new told, t.backing.2 = s.backing.2 ++ new ∧
      Reads .times (report src .queryingTimes) s.times.known new told ∧
        a = told.map (·.getD {}) := by
  rw [endsIn_readTimes]
  split
  · next known hknown =>
    rw [hknown]
    exact ⟨[], .ok known, by simp, ⟨rfl, rfl⟩, rfl⟩
  · next hnone =>
    rw [hnone]
    refine (Source.endsIn_recording ..).2 (EndsIn.of_forall src.times s.backing.1 ?_)
    rintro (e | known) b
    · exact ⟨_, _, rfl, ⟨.error e, rfl, rfl⟩, rfl⟩
    · exact ⟨_, _, rfl, ⟨.ok known, rfl, rfl⟩, rfl⟩

/-- **A call for the unit** is replied to with what the stream is told. -/
theorem Call.perform_unit (src : Source σ ε) (transformer : Option (Transformer (σ × List Inquiry)))
    (s : Stream (σ × List Inquiry)) {c : Call} {reply : UnitOfMeasure → Reply ε}
    (hreply : c.unitReply = some reply) :
    (c.perform src.recorded transformer).EndsIn s fun a t => ∃ new told,
      t.backing.2 = s.backing.2 ++ new ∧
      Reads .unit (report src .queryingUnit) s.unit.known new told ∧ a = told.map reply := by
  have hread := endsIn_readUnit_reads src s
  cases c with
  | unit =>
    cases hreply
    refine (endsIn_map ..).2 (hread.mono ?_)
    rintro told t ⟨new, hnew, hreads⟩
    exact ⟨new, told, hnew, hreads, rfl⟩
  | isSetUnit =>
    cases hreply
    refine (endsIn_map ..).2 ((endsIn_map ..).2 (hread.mono ?_))
    rintro told t ⟨new, hnew, hreads⟩
    refine ⟨new, told, hnew, hreads, ?_⟩
    cases told <;> rfl
  | _ => cases hreply

/-- What follows a read of the times, told of what the read is told. -/
theorem endsIn_readTimes_reply (src : Source σ ε) (s : Stream (σ × List Inquiry))
    {follow : Except Failure Times → Except Failure (Reply ε)}
    {reply : Option Times → Except Failure (Reply ε)}
    (hreply : ∀ told, follow (told.map (·.getD {})) = told >>= reply) :
    (readTimes src.recorded).EndsIn s fun a t => ∃ new told, t.backing.2 = s.backing.2 ++ new ∧
      Reads .times (report src .queryingTimes) s.times.known new told ∧
        follow a = told >>= reply := by
  refine (endsIn_readTimes_reads src s).mono ?_
  rintro _ t ⟨new, told, hnew, hreads, rfl⟩
  exact ⟨new, told, hnew, hreads, hreply told⟩

/-- **A call for one of the times** is replied to with what the stream is told. -/
theorem Call.perform_times (src : Source σ ε)
    (transformer : Option (Transformer (σ × List Inquiry))) (s : Stream (σ × List Inquiry))
    {c : Call} {reply : Option Times → Except Failure (Reply ε)}
    (hreply : c.timesReply = some reply) :
    (c.perform src.recorded transformer).EndsIn s fun a t => ∃ new told,
      t.backing.2 = s.backing.2 ++ new ∧
      Reads .times (report src .queryingTimes) s.times.known new told ∧ a = told >>= reply := by
  cases c with
  | times =>
    cases hreply
    refine (endsIn_map ..).2 (endsIn_readTimes_reply src s ?_)
    rintro (_ | _) <;> rfl
  | isSetPhenomenonTime =>
    cases hreply
    refine (endsIn_map ..).2 ((endsIn_bind_lift ..).2 (endsIn_readTimes_reply src s ?_))
    rintro (_ | _) <;> rfl
  | isSetResultTime =>
    cases hreply
    refine (endsIn_map ..).2 ((endsIn_map ..).2 (endsIn_readTimes_reply src s ?_))
    rintro (_ | _) <;> rfl
  | isSetValidTime =>
    cases hreply
    refine (endsIn_map ..).2 ((endsIn_bind_lift ..).2 (endsIn_readTimes_reply src s ?_))
    rintro (_ | _) <;> rfl
  | _ => cases hreply

/-! ## Which calls query -/

/-- What a call may ask the source for: a call that has to do with the unit alone does not ask for the
times, nor the other way round, and other calls ask for neither. -/
def Call.MayAsk : Call → Inquiry → Prop
  | .unit, .unit _ | .isSetUnit, .unit _ | .nextValue, .unit _ | .drain, .unit _ => True
  | .times, .times _ | .isSetPhenomenonTime, .times _ | .isSetResultTime, .times _
  | .isSetValidTime, .times _ => True
  | .mergeObservation, _ => True
  | _, _ => False

/-- All queries after those of the log are allowed ones. -/
def Asked (allowed : Inquiry → Prop) (log : List Inquiry) (s : Stream (σ × List Inquiry)) : Prop :=
  ∃ new, s.backing.2 = log ++ new ∧ ∀ q ∈ new, allowed q

namespace Asked

variable {allowed : Inquiry → Prop}

theorem start (s : Stream (σ × List Inquiry)) : Asked allowed s.backing.2 s :=
  ⟨[], by simp, List.forall_mem_nil _⟩

theorem append {new : List Inquiry} (hs : Asked allowed log s)
    (hlog : t.backing.2 = s.backing.2 ++ new) (hnew : ∀ q ∈ new, allowed q) :
    Asked allowed log t := by
  obtain ⟨old, hold, hallowed⟩ := hs
  refine ⟨old ++ new, by rw [hlog, hold, List.append_assoc], ?_⟩
  exact List.forall_mem_append.2 ⟨hallowed, hnew⟩

theorem unchanged (hs : Asked allowed log s) (hlog : t.backing.2 = s.backing.2) :
    Asked allowed log t :=
  hs.append (by simpa using hlog) (List.forall_mem_nil _)

theorem nextEntity (hs : Asked allowed log s) :
    (nextEntity src.recorded).EndsIn s fun _ t => Asked allowed log t :=
  (endsIn_nextEntity_recorded src s).mono fun _ _ ht => hs.unchanged ht.2.2

theorem readUnit (hallowed : ∀ answer, allowed (.unit answer)) (hs : Asked allowed log s) :
    (readUnit src.recorded).EndsIn s fun _ t => Asked allowed log t := by
  refine (endsIn_readUnit_reads src s).mono ?_
  rintro _ t ⟨new, hnew, hreads⟩
  exact hs.append hnew (hreads.forall_mem hallowed)

theorem readTimes (hallowed : ∀ answer, allowed (.times answer)) (hs : Asked allowed log s) :
    (readTimes src.recorded).EndsIn s fun _ t => Asked allowed log t := by
  refine (endsIn_readTimes_reads src s).mono ?_
  rintro _ t ⟨new, told, hnew, hreads, -⟩
  exact hs.append hnew (hreads.forall_mem hallowed)

theorem close (hs : Asked allowed log s) :
    (close src.recorded).EndsIn s fun _ t => Asked allowed log t := by
  rw [endsIn_close]
  split
  · exact hs
  · exact (endsIn_onFirst ..).2 (EndsIn.of_forall src.release s.backing.1 fun _ _ =>
      hs.unchanged rfl)

theorem modified (ps : ParameterSet) (hs : Asked allowed log s) :
    (modified (transformer.map (·.onFirst)) ps).EndsIn s fun _ t => Asked allowed log t := by
  refine (modified_onFirst_frame s ps).mono ?_
  rintro _ t ⟨b, rfl, hb⟩
  exact hs.unchanged hb

/-- Samples may need the unit. -/
theorem keeps (hallowed : ∀ answer, allowed (.unit answer)) :
    Keeps src.recorded fun _ => Asked allowed log where
  nextEntity hs := hs.nextEntity
  readUnit hs := hs.readUnit hallowed
  fail _ hs := hs
  report _ hs := hs

end Asked

theorem Call.perform_asks (src : Source σ ε) (transformer : Option (Transformer σ))
    (s : Stream (σ × List Inquiry)) (c : Call) :
    (c.perform src.recorded (transformer.map (·.onFirst))).EndsIn s fun _ t =>
      Asked c.MayAsk s.backing.2 t := by
  have hs : Asked c.MayAsk s.backing.2 s := .start s
  cases c with
  | nextEntity => exact hs.nextEntity.bind_pure _
  | nextValue => exact ((Asked.keeps fun _ => trivial).nextValue hs).bind_pure _
  | drain => exact ((Asked.keeps fun _ => trivial).drain hs).bind_pure _
  | unit => exact (hs.readUnit fun _ => trivial).bind_pure _
  | isSetUnit => exact ((hs.readUnit fun _ => trivial).bind_pure _).bind_pure _
  | setUnit u => exact hs.unchanged rfl
  | times => exact (hs.readTimes fun _ => trivial).bind_pure _
  | isSetPhenomenonTime => exact ((hs.readTimes fun _ => trivial).bind_lift _).bind_pure _
  | isSetResultTime => exact ((hs.readTimes fun _ => trivial).bind_pure _).bind_pure _
  | isSetValidTime => exact ((hs.readTimes fun _ => trivial).bind_lift _).bind_pure _
  | mergeObservation =>
    have hmerge : (Stream.mergeObservation src.recorded (transformer.map (·.onFirst))).EndsIn s
        fun _ t => Asked (Call.MayAsk .mergeObservation) s.backing.2 t :=
      (Asked.keeps fun _ => trivial).mergeObservation (fun ht => ht.readTimes fun _ => trivial)
        (fun ps ht => ht.modified ps) (hs.readUnit fun _ => trivial)
    exact hmerge.bind_pure _
  | close => exact hs.close.bind_pure _

/-- Whether the next sample is made with the unit. -/
def NextNeedsUnit (src : Source σ ε) (s : Stream σ) : Prop :=
  (nextEntity src).EndsIn s fun a _ => ∃ e f, a = .ok (some e) ∧ src.convert e = .withUnit f

/-- Whether a call needs the unit: it asks for it, or makes a sample with it. -/
def Call.NeedsUnit (src : Source σ ε) (s : Stream σ) : Call → Prop
  | .unit | .isSetUnit | .mergeObservation => True
  | .nextValue | .drain => NextNeedsUnit src s
  | _ => False

/-- The first query after those of the log was for the unit. -/
def AskedUnit (src : Source σ ε) (given : Option UnitOfMeasure) (log : List Inquiry)
    (thrown : Option Failure) (s : Stream (σ × List Inquiry)) : Prop :=
  ∃ a, Inquires src given (log ++ [.unit a]) thrown s

namespace AskedUnit

theorem keeps : Keeps src.recorded (AskedUnit src given log) :=
  .some_of fun _ => Inquires.keeps

theorem readTimes (hs : AskedUnit src given log none s) :
    (readTimes src.recorded).EndsIn s fun a s => AskedUnit src given log (failureOf a) s := by
  obtain ⟨u, hs⟩ := hs
  exact hs.readTimes.mono fun _ _ ht => ⟨u, ht⟩

theorem modified (ps : ParameterSet) (hs : AskedUnit src given log none s) :
    (modified (transformer.map (·.onFirst)) ps).EndsIn s fun _ s =>
      AskedUnit src given log none s := by
  obtain ⟨u, hs⟩ := hs
  exact (hs.modified ps).mono fun _ _ ht => ⟨u, ht⟩

end AskedUnit

theorem Tracks.askedUnit (src : Source σ ε) (hs : Tracks given s) (hnone : s.unit.known = none) :
    (readUnit src.recorded).EndsIn s fun a t =>
      AskedUnit src given s.backing.2 (failureOf a) t := by
  refine ((hs.inquires src).readUnit.and (endsIn_readUnit_reads src s)).mono ?_
  rintro a t ⟨ht, new, hlog, hreads⟩
  rw [hnone] at hreads
  obtain ⟨answer, rfl, -⟩ := hreads
  refine ⟨answer, ?_⟩
  rw [← hlog]
  exact ht.toTracks.inquires src

theorem Tracks.askedUnit_nextValue (hs : Tracks given s) (hnone : s.unit.known = none)
    (hneeds : NextNeedsUnit src.recorded s) :
    (nextValue src.recorded).EndsIn s fun a t =>
      AskedUnit src given s.backing.2 (failureOf a) t := by
  have hnext := (hs.inquires src).nextEntity.and (endsIn_nextEntity_recorded src s)
  unfold nextValue
  rw [endsIn_bind]
  refine (hnext.and hneeds).mono ?_
  rintro _ t ⟨⟨ht, hunit, -, hlog⟩, e, f, rfl, hconvert⟩
  have hasked := ht.toTracks.askedUnit src (hunit ▸ hnone)
  rw [hlog] at hasked
  have hconverted : (convert src.recorded e).EndsIn t fun a t =>
      AskedUnit src given s.backing.2 (failureOf a) t := by
    unfold convert
    rw [hconvert]
    exact hasked.bind_failure fun u t ht => AskedUnit.keeps.lift (f u) ht
  refine EndsIn.bind_failure ?_ fun _ _ ht => ht
  rw [endsIn_guarded]
  refine hconverted.mono ?_
  rintro (g | x) t ht
  · exact AskedUnit.keeps.report .converting ht
  · exact ht

/-- A call that needs the unit asks for it if it is not known, before anything else. -/
theorem Tracks.askedUnit_perform (hs : Tracks given s) (hnone : s.unit.known = none) {c : Call}
    (hneeds : c.NeedsUnit src.recorded s) :
    (c.perform src.recorded (transformer.map (·.onFirst))).EndsIn s fun a t =>
      AskedUnit src given s.backing.2 (failureOf a) t := by
  have hunit := hs.askedUnit src hnone
  cases c with
  | unit => exact hunit.bind_failure fun _ _ ht => ht
  | isSetUnit =>
    have hflag : (isSetUnit src.recorded).EndsIn s fun a t =>
        AskedUnit src given s.backing.2 (failureOf a) t := hunit.bind_failure fun _ _ ht => ht
    exact hflag.bind_failure fun _ _ ht => ht
  | nextValue => exact (hs.askedUnit_nextValue hnone hneeds).bind_failure fun _ _ ht => ht
  | drain =>
    have htake : (drain src.recorded).EndsIn s fun a t =>
        AskedUnit src given s.backing.2 (failureOf a) t := by
      refine (hs.askedUnit_nextValue hnone hneeds).bind_failure ?_
      rintro (_ | x) t ht
      · exact ht
      · exact (AskedUnit.keeps.take _ ht).bind_failure fun _ _ ht => ht
    exact htake.bind_failure fun _ _ ht => ht
  | mergeObservation =>
    have hmerge : (Stream.mergeObservation src.recorded (transformer.map (·.onFirst))).EndsIn s
        fun a t => AskedUnit src given s.backing.2 (failureOf a) t :=
      AskedUnit.keeps.mergeObservation AskedUnit.readTimes AskedUnit.modified hunit
    exact hmerge.bind_failure fun _ _ ht => ht
  | _ => cases hneeds

/-- **Unit and times are resolved once, and then stable.** After any calls a stream knows the unit that
was assigned last, or else the one that its source has answered, and the times that its source has
answered. The next call asks for the unit only if none was assigned or answered, and for the times
only if none were answered; it asks for no more than it has to do with. If a query fails, the call
fails with it, as a failure of a query; a call that needs the unit while none is settled asks for it
first, whether it was asked for before or not. A call for the unit, or for the times, answers what is
settled and asks for nothing then; otherwise it makes one query, answers what that has answered, and
fails if it has failed. What any other call answers agrees with what is settled. All this is told of a
source that lists what it is asked; a reader does not see the difference. -/
theorem resolves_once (src : Source σ ε) (transformer : Option (Transformer σ))
    (template : Observation) (options : List (String × Datum)) (b : σ) (before : List Call)
    (c : Call) :
    let listed := src.recorded
    let beside := transformer.map (·.onFirst)
    let s := after listed beside { backing := (b, []), template, options } before
    let log := s.backing.2
    (s.seen = after src transformer { backing := b, template, options } before ∧
      (c.perform listed beside).Mirrors seen s (c.perform src transformer)) ∧
    s.unit.known = settledUnit before log ∧ s.times.known = settledTimes log ∧
    (c.perform listed beside).EndsIn s fun a t => ∃ new, t.backing.2 = log ++ new ∧
      Lawful (assigned before) log new ∧ (∀ q ∈ new, c.MayAsk q) ∧
      (∀ q ∈ new, ∀ e, q.failure src = some e → e.isQuery = true ∧ a = .error e) ∧
      (c.NeedsUnit listed s → settledUnit before log = none → ∃ u rest, new = .unit u :: rest) ∧
      (∀ reply, c.unitReply = some reply → ∃ told,
        Reads .unit (report src .queryingUnit) (settledUnit before log) new told ∧
          a = told.map reply) ∧
      (∀ reply, c.timesReply = some reply → ∃ told,
        Reads .times (report src .queryingTimes) (settledTimes log) new told ∧
          a = told >>= reply) ∧
      ∀ r, a = .ok r →
        c.Tells listed (settledUnit (before ++ [c]) (log ++ new)) (settledTimes (log ++ new)) r := by
  intro listed beside s log
  have hs : Tracks (assigned before) s := by
    have h := (Tracks.start b template options).after src transformer before
    rwa [Option.or_none] at h
  have hunits : s.unit.known = settledUnit before log := hs.unit
  have hwraps : listed.Wraps src := src.recorded_wraps
  refine ⟨⟨hwraps.after transformer _ before, hwraps.perform c⟩, hunits, hs.times, ?_⟩
  rw [← hunits, ← hs.times]
  have hstep := hs.perform src transformer c
  have hasked : (c.perform listed beside).EndsIn s fun a t =>
      Asked c.MayAsk log t := c.perform_asks src transformer s
  have hneeded : (c.perform listed beside).EndsIn s fun a t =>
      c.NeedsUnit listed s → s.unit.known = none →
        AskedUnit src (assigned before) log (failureOf a) t :=
    fun hneeds hnone => hs.askedUnit_perform hnone hneeds
  have hunit : (c.perform listed beside).EndsIn s fun a t => ∀ reply, c.unitReply = some reply →
      ∃ new told, t.backing.2 = log ++ new ∧
        Reads .unit (report src .queryingUnit) s.unit.known new told ∧ a = told.map reply :=
    fun reply hreply => Call.perform_unit src beside s hreply
  have htimes : (c.perform listed beside).EndsIn s fun a t => ∀ reply, c.timesReply = some reply →
      ∃ new told, t.backing.2 = log ++ new ∧
        Reads .times (report src .queryingTimes) s.times.known new told ∧ a = told >>= reply :=
    fun reply hreply => Call.perform_times src beside s hreply
  have htells : (c.perform listed beside).EndsIn s fun a t => ∀ r, a = .ok r →
      c.Tells listed t.unit.known t.times.known r := c.perform_tells
  refine (((((hstep.and hasked).and hneeded).and hunit).and htimes).and htells).mono ?_
  rintro a t ⟨⟨⟨⟨⟨⟨ht, new, hnew, hlawful, hfailed⟩, hasked⟩, hneeded⟩, hunit⟩, htimes⟩, htells⟩
  -- What was added to the log is one list, whoever tells of it.
  have hsame {new' : List Inquiry} (h : t.backing.2 = log ++ new') : new' = new :=
    List.append_cancel_left (h.symm.trans hnew)
  refine ⟨new, hnew, hlawful, ?_, ?_, ?_, ?_, ?_, ?_⟩
  · obtain ⟨new', hnew', hallowed⟩ := hasked
    exact hsame hnew' ▸ hallowed
  · intro q hq e he
    exact ⟨isQuery_failure he, hfailed q hq e he⟩
  · intro hneeds hnone
    obtain ⟨u, hasked⟩ := hneeded hneeds hnone
    obtain ⟨rest, hrest, -⟩ := hasked.since
    rw [List.append_assoc] at hrest
    exact ⟨u, rest, (hsame hrest).symm⟩
  · intro reply hreply
    obtain ⟨new', told, hnew', hreads, ha⟩ := hunit reply hreply
    exact ⟨told, hsame hnew' ▸ hreads, ha⟩
  · intro reply hreply
    obtain ⟨new', told, hnew', hreads, ha⟩ := htimes reply hreply
    exact ⟨told, hsame hnew' ▸ hreads, ha⟩
  · intro r hr
    have hfinal := htells r hr
    rw [ht.unit, ht.times, hnew] at hfinal
    rw [settledUnit, assigned_append, assigned_singleton]
    exact hfinal

end Stream

end SensorSeries
