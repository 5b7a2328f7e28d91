import SensorSeries.Proofs.Stream.Calls
import SensorSeries.Proofs.Stream.Steps

/-!
# Uses of a stream

A reader calls a stream, and may do so inside a block that closes the stream when it is left, by a
failure or without one. `afterUses` is the stream that a list of uses leaves.

Every call is made of a few operations: asking for the next entity, reading unit and times, assigning
a unit, closing. `Keeps` says that the first of these keep a condition on the stream and on how the
operation has failed, if it has; then all calls that ask for samples keep it as well, and every call
and every use does if the rest keeps it too.
-/

namespace SensorSeries

/-- A transformer that works on a part of a state. -/
def Transformer.zoom {σ τ : Type} (part : τ → σ) (put : σ → τ → τ) (t : Transformer σ) :
    Transformer τ where
  transform g target := Action.zoom part put (t.transform g target)

theorem Transformer.endsIn_zoom {σ τ : Type} (part : τ → σ) (put : σ → τ → τ) (t : Transformer σ)
    (g : Option Geometry) (target : Int) (x : τ)
    (Q : Except Failure (Option Geometry) → τ → Prop) :
    ((t.zoom part put).transform g target).EndsIn x Q ↔
      (t.transform g target).EndsIn (part x) fun a s => Q a (put s x) := .rfl

/-- A transformer that uses the first of two things. -/
def Transformer.onFirst {σ τ : Type} (t : Transformer σ) : Transformer (σ × τ) :=
  t.zoom (·.1) fun b x => (b, x.2)

namespace Stream

open SensorSeries.Action

variable {σ ε : Type} {src : Source σ ε} {transformer : Option (Transformer σ)} {s : Stream σ}

/-! ## What asking for samples keeps -/

/-- The operations that samples are made by keep a condition. It may change with a failure, but then
not with what the reader is told of the failure. -/
structure Keeps (src : Source σ ε) (P : Option Failure → Stream σ → Prop) : Prop where
  nextEntity : ∀ {s}, P none s → (nextEntity src).EndsIn s fun a s => P (failureOf a) s
  readUnit : ∀ {s}, P none s → (readUnit src).EndsIn s fun a s => P (failureOf a) s
  fail : ∀ {s} e, P none s → P (some e) s
  report : ∀ {s e} stage, P (some e) s → P (some (report src stage e)) s

namespace Keeps

variable {P : Option Failure → Stream σ → Prop}

/-- What asking the source for an entity or the unit does not affect is kept. A condition on the
source may be kept along with it. -/
theorem of_frame {P : Stream σ → Prop} {R : σ → Prop} (hbacking : ∀ s, P s → R s.backing)
    (hfetch : ∀ b, R b → src.fetch.EndsIn b fun _ b => R b)
    (hunit : ∀ b, R b → src.unit.EndsIn b fun _ b => R b)
    (hkept : ∀ s b unit exhausted, P s → R b → P { s with backing := b, unit, exhausted }) :
    Keeps src fun _ => P where
  nextEntity := by
    intro s hs
    have hb := hbacking s hs
    refine (nextEntity_frame src s (hfetch _ hb) hb).mono ?_
    rintro a _ ⟨b, exhausted, rfl, hb⟩
    exact hkept s b s.unit exhausted hs hb
  readUnit := by
    intro s hs
    have hb := hbacking s hs
    refine (readUnit_frame src s (hunit _ hb) hb).mono ?_
    rintro a _ ⟨b, unit, rfl, hb⟩
    exact hkept s b unit s.exhausted hs hb
  fail _ hs := hs
  report _ hs := hs

/-- What does not depend on the source is kept by any source. -/
theorem of_unaffected {P : Stream σ → Prop}
    (h : ∀ s b unit exhausted, P s → P { s with backing := b, unit, exhausted }) :
    Keeps src fun _ => P := by
  let Any (_ : σ) : Prop := True
  have hany {α : Type} (x : Action σ α) (b : σ) : x.EndsIn b fun _ b => Any b :=
    EndsIn.of_forall x b fun _ _ => trivial
  exact .of_frame (fun s _ => trivial) (fun b _ => hany src.fetch b) (fun b _ => hany src.unit b)
    fun s b unit exhausted hs _ => h s b unit exhausted hs

/-- What is kept for each of some things is kept for one of them. -/
theorem some_of {ι : Type} {P : ι → Option Failure → Stream σ → Prop} (h : ∀ i, Keeps src (P i)) :
    Keeps src fun f s => ∃ i, P i f s where
  nextEntity := by
    rintro s ⟨i, hs⟩
    exact ((h i).nextEntity hs).mono fun _ _ ht => ⟨i, ht⟩
  readUnit := by
    rintro s ⟨i, hs⟩
    exact ((h i).readUnit hs).mono fun _ _ ht => ⟨i, ht⟩
  fail := by
    rintro s e ⟨i, hs⟩
    exact ⟨i, (h i).fail e hs⟩
  report := by
    rintro s e stage ⟨i, hs⟩
    exact ⟨i, (h i).report stage hs⟩

theorem lift (h : Keeps src P) {α : Type} (a : Except Failure α) (hs : P none s) :
    (lift a).EndsIn s fun a s => P (failureOf a) s := by
  cases a with
  | ok a => exact hs
  | error e => exact h.fail e hs

theorem convert (h : Keeps src P) (e : ε) (hs : P none s) :
    (convert src e).EndsIn s fun a s => P (failureOf a) s := by
  unfold Stream.convert
  cases src.convert e with
  | done a => exact h.lift a hs
  | withUnit f => exact (h.readUnit hs).bind_failure fun u s hs => h.lift (f u) hs

theorem nextValue (h : Keeps src P) (hs : P none s) :
    (nextValue src).EndsIn s fun a s => P (failureOf a) s := by
  refine (h.nextEntity hs).bind_failure ?_
  rintro (_ | e) s hs
  · exact hs
  · refine EndsIn.bind_failure ?_ fun x s hs => hs
    rw [endsIn_guarded]
    refine (h.convert e hs).mono ?_
    rintro (f | x) s hs
    · exact h.report .converting hs
    · exact hs

theorem take (h : Keeps src P) (n : Nat) (hs : P none s) :
    (take src n).EndsIn s fun a s => P (failureOf a) s := by
  induction n generalizing s with
  | zero => exact hs
  | succ n ih =>
    refine (h.nextValue hs).bind_failure ?_
    rintro (_ | x) s hs
    · exact hs
    · exact (ih hs).bind_failure fun xs s hs => hs

theorem drain (h : Keeps src P) (hs : P none s) :
    (drain src).EndsIn s fun a s => P (failureOf a) s :=
  h.take _ hs

/-- The observation of all samples starts with the unit. It needs the times and the options of the
stream besides. -/
theorem mergeObservation (h : Keeps src P)
    (htimes : ∀ {s}, P none s → (readTimes src).EndsIn s fun a s => P (failureOf a) s)
    (hmodified : ∀ {s} ps, P none s → (modified transformer ps).EndsIn s fun _ s => P none s)
    (hunit : (Stream.readUnit src).EndsIn s fun a s => P (failureOf a) s) :
    (mergeObservation src transformer).EndsIn s fun a s => P (failureOf a) s := by
  unfold Stream.mergeObservation
  rw [endsIn_bind, endsIn_get, continues_ok]
  refine hunit.bind_failure fun u s hs => ?_
  refine (h.drain hs).bind_failure fun xs s hs => ?_
  refine (htimes hs).bind_failure fun t s hs => ?_
  rw [endsIn_bind]
  refine (hmodified _ hs).mono ?_
  rintro (e | ⟨a, ps⟩) s hs
  · exact h.fail e hs
  · exact (h.lift a hs).bind_failure fun _ s hs => hs

/-- What the operations keep that a call is made of, the call keeps. -/
theorem perform (h : Keeps src P)
    (htimes : ∀ {s}, P none s → (readTimes src).EndsIn s fun a s => P (failureOf a) s)
    (hmodified : ∀ {s} ps, P none s → (modified transformer ps).EndsIn s fun _ s => P none s)
    (c : Call)
    (hclose : c = .close → ∀ {s}, P none s → (close src).EndsIn s fun a s => P (failureOf a) s)
    (hset : ∀ {s} u, c = .setUnit u → P none s → P none { s with unit := .ofValue u })
    (hs : P none s) :
    (c.perform src transformer).EndsIn s fun a s => P (failureOf a) s := by
  cases c with
  | nextEntity => exact (h.nextEntity hs).bind_failure fun _ s hs => hs
  | nextValue => exact (h.nextValue hs).bind_failure fun _ s hs => hs
  | drain => exact (h.drain hs).bind_failure fun _ s hs => hs
  | unit => exact (h.readUnit hs).bind_failure fun _ s hs => hs
  | isSetUnit =>
    have hflag : (isSetUnit src).EndsIn s fun a s => P (failureOf a) s :=
      (h.readUnit hs).bind_failure fun _ s hs => hs
    exact hflag.bind_failure fun _ s hs => hs
  | setUnit u => exact hset u rfl hs
  | times => exact (htimes hs).bind_failure fun _ s hs => hs
  | isSetPhenomenonTime =>
    have hflag : (isSetPhenomenonTime src).EndsIn s fun a s => P (failureOf a) s :=
      (htimes hs).bind_failure fun t s hs => h.lift (Time.isSetOption t.phenomenon) hs
    exact hflag.bind_failure fun _ s hs => hs
  | isSetResultTime =>
    have hflag : (isSetResultTime src).EndsIn s fun a s => P (failureOf a) s :=
      (htimes hs).bind_failure fun _ s hs => hs
    exact hflag.bind_failure fun _ s hs => hs
  | isSetValidTime =>
    have hflag : (isSetValidTime src).EndsIn s fun a s => P (failureOf a) s :=
      (htimes hs).bind_failure fun t s hs => h.lift (Time.isSetOption t.valid) hs
    exact hflag.bind_failure fun _ s hs => hs
  | mergeObservation =>
    exact (h.mergeObservation htimes hmodified (h.readUnit hs)).bind_failure fun _ s hs => hs
  | close => exact (hclose rfl hs).bind_failure fun _ s hs => hs

/-- What the operations keep, calls for the next entity and for what is known of the whole keep. -/
theorem after_reads {P : Stream σ → Prop} (h : Keeps src fun _ => P)
    (htimes : ∀ {s}, P s → (readTimes src).EndsIn s fun _ s => P s) {calls : List Call}
    (hcalls : ∀ c ∈ calls, c.isRead = true) (hs : P s) : P (after src transformer s calls) := by
  refine after_preserves hs fun c hc s hs => ?_
  cases hnext : c.isNext with
  | false =>
    exact Call.perform_preserves (fun _ hs => h.readUnit hs) (fun _ hs => htimes hs) (hcalls c hc)
      hnext hs
  | true =>
    cases c with
    | nextEntity => exact (h.nextEntity hs).bind_pure _
    | nextValue => exact (h.nextValue hs).bind_pure _
    | _ => cases hnext

end Keeps

/-! ## What the options of a stream do -/

/-- Replacing a parameter only changes the parameters. -/
theorem endsIn_replace {P : σ → Prop} (p q : Parameter) {x : σ × ParameterSet} (hx : P x.1) :
    (Reprojection.replace p q).EndsIn x fun _ x => P x.1 := by
  unfold Reprojection.replace
  rw [endsIn_bind, endsIn_get, continues_ok, endsIn_bind, endsIn_lift]
  cases Reprojection.takeOut x.2 p with
  | error e => exact hx
  | ok rest =>
    rw [continues_ok, endsIn_bind, endsIn_modify, continues_ok, endsIn_bind, endsIn_lift]
    cases rest.add q with
    | error e => exact hx
    | ok whole => exact hx

/-- What the transformer preserves, replacing parameters preserves. -/
theorem endsIn_replaceAll {P : σ → Prop}
    (h : ∀ t ∈ transformer, ∀ g n b, P b → (t.transform g n).EndsIn b fun _ b => P b) (target : Int)
    (ps : List Parameter) {x : σ × ParameterSet} (hx : P x.1) :
    (Reprojection.replaceAll transformer target ps).EndsIn x fun _ x => P x.1 := by
  induction ps generalizing x with
  | nil => exact hx
  | cons p ps ih =>
    rw [Reprojection.replaceAll, endsIn_bind, endsIn_lift]
    cases p.asNamed with
    | error e => exact hx
    | ok n =>
      rw [continues_ok]
      split
      · next g unit _ _ =>
        cases transformer with
        | none => exact hx
        | some t =>
          rw [endsIn_bind, endsIn_note, continues_ok]
          refine EndsIn.bind_state (h t rfl g target x.1 hx) fun image x hx => ?_
          exact (endsIn_replace _ _ hx).bind_state fun _ x hx => ih hx
      · exact ih hx

/-- Options that ask for no reference system do nothing. -/
theorem apply_of_no_crs {options : List (String × Datum)}
    (h : Datum.field? options Vocabulary.crs = none) :
    Reprojection.apply options transformer = Pure.pure () := by
  rw [Reprojection.apply, h]

theorem endsIn_modified (ps : ParameterSet)
    (Q : Except Failure (Except Failure Unit × ParameterSet) → Stream σ → Prop) :
    (modified transformer ps).EndsIn s Q ↔
      (Reprojection.apply s.options transformer).EndsIn (s.backing, ps) fun a x =>
        Q (.ok (a, x.2)) { s with backing := x.1 } := .rfl

/-- The options of a stream change nothing about it but what the transformer changes. -/
theorem modified_frame {P : σ → Prop}
    (h : ∀ t ∈ transformer, ∀ g n b, P b → (t.transform g n).EndsIn b fun _ b => P b)
    (ps : ParameterSet) (hs : P s.backing) :
    (modified transformer ps).EndsIn s fun _ t => ∃ b, t = { s with backing := b } ∧ P b := by
  rw [endsIn_modified]
  suffices happly : (Reprojection.apply s.options transformer).EndsIn (s.backing, ps)
      fun _ x => P x.1 from happly.mono fun _ x hx => ⟨x.1, rfl, hx⟩
  unfold Reprojection.apply
  split
  · exact hs
  · next option _ =>
    rw [endsIn_bind, endsIn_lift]
    cases Crs.read option with
    | error e => exact hs
    | ok target =>
      rw [continues_ok, endsIn_bind, endsIn_get, continues_ok]
      exact endsIn_replaceAll h target ps.items hs

/-- A transformer that uses the first of two things does not touch the second. -/
theorem modified_onFirst_frame {τ : Type} (s : Stream (σ × τ)) (ps : ParameterSet) :
    (modified (transformer.map (·.onFirst)) ps).EndsIn s fun _ t =>
      ∃ b, t = { s with backing := b } ∧ b.2 = s.backing.2 := by
  refine modified_frame (P := fun b : σ × τ => b.2 = s.backing.2) ?_ ps rfl
  intro t ht g n b hb
  obtain ⟨t, -, rfl⟩ := Option.map_eq_some_iff.1 ht
  exact (t.endsIn_zoom ..).2 (EndsIn.of_forall _ _ fun _ _ => hb)

/-! ## Uses -/

/-- What a reader does with a stream. -/
inductive Use where
  | call (c : Call)
  /-- Leaves a block that the stream was used in; a failure may have ended the block. -/
  | leave (thrown : Option Failure)

namespace Use

def perform (src : Source σ ε) (transformer : Option (Transformer σ)) :
    Use → Action (Stream σ) (Reply ε)
  | .call c => c.perform src transformer
  | .leave thrown => do
    closingAfter src (Action.lift (thrown.elim (.ok ()) .error))
    return .done

/-- Whether a use closes the stream, if it is not closed yet. -/
def closes : Use → Bool
  | .call .close | .leave _ => true
  | _ => false

end Use

variable (src transformer) in
/-- The stream after some uses. -/
def afterUses (s : Stream σ) (uses : List Use) : Stream σ :=
  uses.foldl (fun s u => ((u.perform src transformer).run s).state) s

/-- Calls are uses. -/
theorem afterUses_map_call (s : Stream σ) (calls : List Call) :
    afterUses src transformer s (calls.map .call) = after src transformer s calls :=
  List.foldl_map

theorem afterUses_append (s : Stream σ) (xs ys : List Use) :
    afterUses src transformer s (xs ++ ys) =
      afterUses src transformer (afterUses src transformer s xs) ys :=
  List.foldl_append

section

variable {P : Stream σ → Prop} (h : Keeps src fun _ => P)
  (htimes : ∀ {s}, P s → (readTimes src).EndsIn s fun _ s => P s)
  (hset : ∀ {s} u, P s → P { s with unit := .ofValue u })
  (hclose : ∀ {s}, P s → (close src).EndsIn s fun _ s => P s)
  (hmodified : ∀ {s} ps, P s → (modified transformer ps).EndsIn s fun _ s => P s)

include h htimes hset hclose hmodified

/-- What the operations keep, every use keeps, whether it fails or not. -/
theorem Keeps.use (u : Use) (hs : P s) :
    (u.perform src transformer).EndsIn s fun _ s => P s := by
  cases u with
  | call c => exact h.perform htimes hmodified c (fun _ => hclose) (fun u _ hs => hset u hs) hs
  | leave thrown =>
    unfold Use.perform closingAfter
    refine EndsIn.bind_state ?_ fun _ s hs => hs
    exact (hclose hs).bind_state fun _ s hs => hs

/-- What the operations keep, a list of uses keeps. -/
theorem Keeps.afterUses (uses : List Use) (hs : P s) : P (afterUses src transformer s uses) := by
  induction uses generalizing s with
  | nil => exact hs
  | cons u uses ih => exact ih (h.use htimes hset hclose hmodified u hs)

end

/-! ## Closed streams -/

/-- Neither the unit nor the times have to do with the flags of a stream. -/
theorem readUnit_flags (src : Source σ ε) (s : Stream σ) :
    (readUnit src).EndsIn s fun _ t => t.exhausted = s.exhausted ∧ t.closed = s.closed := by
  have hunit : src.unit.EndsIn s.backing fun _ _ => True := trivial
  refine (readUnit_frame src s hunit trivial).mono ?_
  intro a t h
  obtain ⟨b, unit, rfl, -⟩ := h
  exact ⟨rfl, rfl⟩

theorem readTimes_flags (src : Source σ ε) (s : Stream σ) :
    (readTimes src).EndsIn s fun _ t => t.exhausted = s.exhausted ∧ t.closed = s.closed := by
  have htimes : src.times.EndsIn s.backing fun _ _ => True := trivial
  refine (readTimes_frame src s htimes trivial).mono ?_
  intro a t h
  obtain ⟨b, times, rfl, -⟩ := h
  exact ⟨rfl, rfl⟩

theorem Keeps.closed (src : Source σ ε) (closed : Bool) :
    Keeps src fun _ s => s.closed = closed :=
  .of_unaffected fun _ _ _ _ hs => hs

theorem endsIn_close_closed (src : Source σ ε) (s : Stream σ) :
    (close src).EndsIn s fun _ t => t.closed = true := by
  rw [endsIn_close]
  split
  · next hs => exact hs
  · exact EndsIn.of_forall _ _ fun _ _ => rfl

/-- A stream is closed by the uses that close it, however they end, and by no others. -/
theorem closed_perform (src : Source σ ε) (transformer : Option (Transformer σ)) (s : Stream σ)
    (u : Use) :
    (u.perform src transformer).EndsIn s fun _ t => t.closed = (s.closed || u.closes) := by
  have hclose := endsIn_close_closed src
  cases u with
  | leave thrown =>
    simp only [Use.closes, Bool.or_true]
    unfold Use.perform closingAfter
    refine EndsIn.bind_state ?_ fun _ _ hs => hs
    exact (hclose _).bind_state fun _ _ hs => hs
  | call c =>
    by_cases hc : c = .close
    · subst hc
      simp only [Use.closes, Bool.or_true]
      exact (hclose s).bind_state fun _ _ hs => hs
    · have hcloses : (Use.call c).closes = false := by
        cases c with
        | close => exact absurd rfl hc
        | _ => rfl
      rw [hcloses, Bool.or_false]
      have htimes {t : Stream σ} (ht : t.closed = s.closed) :
          (readTimes src).EndsIn t fun _ u => u.closed = s.closed :=
        (readTimes_flags src t).mono fun _ _ h => h.2.trans ht
      exact (Keeps.closed src s.closed).perform htimes (fun _ ht => ht) c (fun h => absurd h hc)
        (fun _ _ ht => ht) rfl

theorem closed_afterUses (src : Source σ ε) (transformer : Option (Transformer σ)) (s : Stream σ)
    (uses : List Use) :
    (afterUses src transformer s uses).closed = (s.closed || uses.any (·.closes)) := by
  induction uses generalizing s with
  | nil => exact (Bool.or_false _).symm
  | cons u uses ih =>
    have hu : ((u.perform src transformer).run s).state.closed = (s.closed || u.closes) :=
      closed_perform src transformer s u
    rw [List.any_cons, ← Bool.or_assoc, ← hu]
    exact ih _

end Stream

end SensorSeries
