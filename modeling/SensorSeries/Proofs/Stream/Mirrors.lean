import SensorSeries.Proofs.Stream.Uses

/-!
# Sources with something beside them

A source may keep something beside its state, such as a list of what it was asked, and do all the same
otherwise: it `Wraps` another one. Nothing of this can be seen by a reader. `Mirrors` says of an action
that it does what another one does, as far as can be seen of the state; it follows the way in which
actions are chained, so what the hooks of a source mirror, every use of a stream mirrors
(`Wraps.use`), and a stream over the one source is at any time what a stream over the other one is
(`Wraps.afterUses`).
-/

namespace SensorSeries

namespace Action

variable {σ τ α β : Type} {see : σ → τ} {s : σ}

/-- From a state on, an action does what another one does, as far as can be seen of the state. -/
def Mirrors (see : σ → τ) (s : σ) (x : Action σ α) (y : Action τ α) : Prop :=
  (x.run s).answer = (y.run (see s)).answer ∧ see (x.run s).state = (y.run (see s)).state

theorem mirrors_pure (a : α) : Mirrors see s (Pure.pure a) (Pure.pure a) := ⟨rfl, rfl⟩

theorem mirrors_lift (a : Except Failure α) : Mirrors see s (lift a) (lift a) := ⟨rfl, rfl⟩

theorem mirrors_note (e : JournalEntry) : Mirrors see s (note e) (note e) := ⟨rfl, rfl⟩

theorem mirrors_modify {f : σ → σ} {g : τ → τ} (h : see (f s) = g (see s)) :
    Mirrors see s (modify f) (modify g) := ⟨rfl, h⟩

namespace Mirrors

theorem bind {x : Action σ α} {y : Action τ α} {f : α → Action σ β} {g : α → Action τ β}
    (hx : Mirrors see s x y) (hf : ∀ a t, Mirrors see t (f a) (g a)) :
    Mirrors see s (x >>= f) (y >>= g) := by
  obtain ⟨hanswer, hstate⟩ := hx
  unfold Mirrors
  rw [run_bind, run_bind, ← hanswer, ← hstate]
  cases (x.run s).answer with
  | error e => exact ⟨rfl, rfl⟩
  | ok a => exact hf a _

/-- What is made of the state may differ by what cannot be seen. -/
theorem get_bind {f : σ → Action σ β} {g : τ → Action τ β} (h : Mirrors see s (f s) (g (see s))) :
    Mirrors see s (get >>= f) (get >>= g) := h

theorem attempt {x : Action σ α} {y : Action τ α} (hx : Mirrors see s x y) :
    Mirrors see s x.attempt y.attempt := ⟨congrArg Except.ok hx.1, hx.2⟩

theorem orElse {x : Action σ α} {y : Action τ α} {f : Failure → Action σ α}
    {g : Failure → Action τ α} (hx : Mirrors see s x y) (hf : ∀ e t, Mirrors see t (f e) (g e)) :
    Mirrors see s (x.orElse f) (y.orElse g) := by
  obtain ⟨hanswer, hstate⟩ := hx
  unfold Mirrors run Action.orElse
  unfold run at hanswer hstate
  dsimp only
  rw [← hanswer, ← hstate]
  cases (x s).answer with
  | error e => exact hf e _
  | ok a => exact ⟨rfl, rfl⟩

/-- An action on a part mirrors another one if the parts do. -/
theorem zoom {σ' τ' : Type} {see' : σ' → τ'} {part : σ → σ'} {put : σ' → σ → σ} {part' : τ → τ'}
    {put' : τ' → τ → τ} {x : Action σ' α} {y : Action τ' α} (hx : Mirrors see' (part s) x y)
    (hpart : see' (part s) = part' (see s)) (hput : ∀ r, see (put r s) = put' (see' r) (see s)) :
    Mirrors see s (zoom part put x) (zoom part' put' y) := by
  obtain ⟨hanswer, hstate⟩ := hx
  rw [hpart] at hanswer hstate
  exact ⟨hanswer, (hput _).trans (congrArg (put' · (see s)) hstate)⟩

end Mirrors

end Action

/-- A memo is computed in one way if what it is computed by does the same. -/
theorem Memo.mirrors_get {σ τ α : Type} {see : σ → τ} {x : Action σ α} {y : Action τ α} {s : σ}
    (m : Memo α) (h : x.Mirrors see s y) :
    (Memo.get x).Mirrors (Prod.map id see) (m, s) (Memo.get y) := by
  have hcompute : (Action.onSecond x : Action (Memo α × σ) α).Mirrors (Prod.map id see) (m, s)
      (Action.onSecond y) := h.zoom rfl fun _ => rfl
  apply Action.Mirrors.get_bind
  obtain ⟨_ | a⟩ := m
  · refine hcompute.bind fun a t => ?_
    exact (Action.mirrors_modify (by rfl)).bind fun _ t => Action.mirrors_pure a
  · exact Action.mirrors_pure a

/-- A source that keeps something beside another one, and does the same otherwise. -/
structure Source.Wraps {σ τ ε : Type} (outer : Source (σ × τ) ε) (inner : Source σ ε) : Prop where
  name_eq : outer.name = inner.name
  fetch : ∀ b, outer.fetch.Mirrors Prod.fst b inner.fetch
  unit : ∀ b, outer.unit.Mirrors Prod.fst b inner.unit
  times : ∀ b, outer.times.Mirrors Prod.fst b inner.times
  release : ∀ b, outer.release.Mirrors Prod.fst b inner.release
  convert_eq : outer.convert = inner.convert
  pending_eq : ∀ b, outer.pending b = inner.pending b.1

namespace Stream

open SensorSeries.Action

/-- What a reader sees of a stream: all but what its source keeps beside its state. -/
def seen {σ τ : Type} (s : Stream (σ × τ)) : Stream σ where
  backing := s.backing.1
  template := s.template
  options := s.options
  times := s.times
  unit := s.unit
  exhausted := s.exhausted
  closed := s.closed

end Stream

/-! ## Reprojection -/

namespace Reprojection

open SensorSeries.Action

variable {σ τ : Type} {x : (σ × τ) × ParameterSet}

theorem mirrors_replace (p q : Parameter) :
    (replace p q).Mirrors (Prod.map Prod.fst id) x (replace p q) := by
  apply Mirrors.get_bind
  refine (mirrors_lift _).bind fun rest t => ?_
  refine (mirrors_modify (by rfl)).bind fun _ t => ?_
  refine (mirrors_lift _).bind fun whole t => ?_
  exact mirrors_modify rfl

theorem mirrors_replaceAll (transformer : Option (Transformer σ)) (target : Int)
    (ps : List Parameter) :
    (replaceAll (transformer.map (·.onFirst)) target ps).Mirrors (Prod.map Prod.fst id) x
      (replaceAll transformer target ps) := by
  induction ps generalizing x with
  | nil => exact mirrors_pure ()
  | cons p ps ih =>
    refine (mirrors_lift _).bind fun n t => ?_
    split
    · cases transformer with
      | none => exact mirrors_note _
      | some transform =>
        refine (mirrors_note _).bind fun _ t => ?_
        refine Mirrors.bind ⟨rfl, rfl⟩ fun image t => ?_
        exact (mirrors_replace _ _).bind fun _ t => ih
    · exact ih

theorem mirrors_apply (options : List (String × Datum)) (transformer : Option (Transformer σ)) :
    (apply options (transformer.map (·.onFirst))).Mirrors (Prod.map Prod.fst id) x
      (apply options transformer) := by
  unfold apply
  split
  · exact mirrors_pure ()
  · refine (mirrors_lift _).bind fun target t => ?_
    apply Mirrors.get_bind
    exact mirrors_replaceAll transformer target _

end Reprojection

/-! ## Streams -/

namespace Source.Wraps

open SensorSeries.Action

variable {σ τ ε α : Type} {outer : Source (σ × τ) ε} {inner : Source σ ε}
  {transformer : Option (Transformer σ)} {s : Stream (σ × τ)}

theorem onBacking {x : Action (σ × τ) α} {y : Action σ α} (h : x.Mirrors Prod.fst s.backing y) :
    (Stream.onBacking x).Mirrors Stream.seen s (Stream.onBacking y) :=
  h.zoom rfl fun _ => rfl

theorem guarded (h : outer.Wraps inner) (stage : Stage) {x : Action (Stream (σ × τ)) α}
    {y : Action (Stream σ) α} (hx : x.Mirrors Stream.seen s y) :
    (Stream.guarded outer stage x).Mirrors Stream.seen s (Stream.guarded inner stage y) := by
  refine hx.orElse ?_
  intro e t
  rw [h.name_eq]
  exact ⟨rfl, rfl⟩

theorem nextEntity (h : outer.Wraps inner) :
    (Stream.nextEntity outer).Mirrors Stream.seen s (Stream.nextEntity inner) := by
  apply Mirrors.get_bind
  change (if s.exhausted then _ else _ : Action _ _).Mirrors Stream.seen s
    (if s.exhausted then _ else _)
  split
  · exact mirrors_pure none
  · refine (h.guarded .fetching (onBacking (h.fetch s.backing))).bind fun e t => ?_
    cases e with
    | some e => exact mirrors_pure _
    | none =>
      rw [h.name_eq]
      refine (mirrors_modify (by rfl)).bind fun _ t => ?_
      exact (mirrors_note _).bind fun _ t => mirrors_pure none

theorem readUnit (h : outer.Wraps inner) :
    (Stream.readUnit outer).Mirrors Stream.seen s (Stream.readUnit inner) := by
  have hquery : (Stream.queryUnit outer).Mirrors Stream.seen s (Stream.queryUnit inner) := by
    unfold Stream.queryUnit
    rw [h.name_eq]
    refine (mirrors_note _).bind fun _ t => ?_
    exact h.guarded .queryingUnit (onBacking (h.unit t.backing))
  exact Mirrors.zoom (Memo.mirrors_get s.unit hquery) (by rfl) fun _ => by rfl

theorem readTimes (h : outer.Wraps inner) :
    (Stream.readTimes outer).Mirrors Stream.seen s (Stream.readTimes inner) := by
  have hquery : (Stream.queryTimes outer).Mirrors Stream.seen s (Stream.queryTimes inner) := by
    unfold Stream.queryTimes
    rw [h.name_eq]
    refine (mirrors_note _).bind fun _ t => ?_
    exact h.guarded .queryingTimes (onBacking (h.times t.backing))
  refine Mirrors.bind (Mirrors.zoom (Memo.mirrors_get s.times hquery) ?_ ?_) ?_
  · rfl
  · exact fun _ => rfl
  · exact fun known t => mirrors_pure _

theorem close (h : outer.Wraps inner) :
    (Stream.close outer).Mirrors Stream.seen s (Stream.close inner) := by
  apply Mirrors.get_bind
  change (if s.closed then _ else _ : Action _ _).Mirrors Stream.seen s
    (if s.closed then _ else _)
  split
  · exact mirrors_pure ()
  · rw [h.name_eq]
    refine (mirrors_modify (by rfl)).bind fun _ t => ?_
    exact (onBacking (h.release t.backing)).bind fun _ t => mirrors_note _

theorem convert (h : outer.Wraps inner) (e : ε) :
    (Stream.convert outer e).Mirrors Stream.seen s (Stream.convert inner e) := by
  unfold Stream.convert
  rw [h.convert_eq]
  cases inner.convert e with
  | done r => exact mirrors_lift r
  | withUnit f => exact h.readUnit.bind fun u t => mirrors_lift (f u)

theorem nextValue (h : outer.Wraps inner) :
    (Stream.nextValue outer).Mirrors Stream.seen s (Stream.nextValue inner) := by
  refine h.nextEntity.bind fun e t => ?_
  cases e with
  | none => exact mirrors_pure none
  | some e => exact (h.guarded .converting (h.convert e)).bind fun x t => mirrors_pure _

theorem take (h : outer.Wraps inner) (n : Nat) :
    (Stream.take outer n).Mirrors Stream.seen s (Stream.take inner n) := by
  induction n generalizing s with
  | zero => exact mirrors_pure []
  | succ n ih =>
    refine h.nextValue.bind fun x t => ?_
    cases x with
    | none => exact mirrors_pure []
    | some x => exact ih.bind fun xs t => mirrors_pure _

theorem drain (h : outer.Wraps inner) :
    (Stream.drain outer).Mirrors Stream.seen s (Stream.drain inner) := by
  apply Mirrors.get_bind
  rw [h.pending_eq]
  exact h.take _

theorem modified (ps : ParameterSet) :
    (Stream.modified (transformer.map (·.onFirst)) ps).Mirrors Stream.seen s
      (Stream.modified transformer ps) := by
  obtain ⟨hanswer, hstate⟩ :=
    Reprojection.mirrors_apply (x := (s.backing, ps)) s.options transformer
  have hparameters := congrArg Prod.snd hstate
  refine ⟨congrArg Except.ok (Prod.ext hanswer hparameters), ?_⟩
  exact congrArg (fun x : σ × ParameterSet => { s.seen with backing := x.1 }) hstate

theorem mergeObservation (h : outer.Wraps inner) :
    (Stream.mergeObservation outer (transformer.map (·.onFirst))).Mirrors Stream.seen s
      (Stream.mergeObservation inner transformer) := by
  apply Mirrors.get_bind
  refine h.readUnit.bind fun u t => ?_
  refine h.drain.bind fun xs t => ?_
  refine h.readTimes.bind fun times t => ?_
  refine (modified _).bind fun result t => ?_
  exact (mirrors_lift _).bind fun _ t => mirrors_pure _

/-- A call answers and changes what it would without the things beside. -/
theorem perform (h : outer.Wraps inner) (c : Stream.Call) :
    (c.perform outer (transformer.map (·.onFirst))).Mirrors Stream.seen s
      (c.perform inner transformer) := by
  cases c with
  | nextEntity => exact h.nextEntity.bind fun _ _ => mirrors_pure _
  | nextValue => exact h.nextValue.bind fun _ _ => mirrors_pure _
  | drain => exact h.drain.bind fun _ _ => mirrors_pure _
  | unit => exact h.readUnit.bind fun _ _ => mirrors_pure _
  | isSetUnit => exact (h.readUnit.bind fun _ _ => mirrors_pure _).bind fun _ _ => mirrors_pure _
  | setUnit u => exact (mirrors_modify (by rfl)).bind fun _ _ => mirrors_pure _
  | times => exact h.readTimes.bind fun _ _ => mirrors_pure _
  | isSetPhenomenonTime =>
    exact (h.readTimes.bind fun _ _ => mirrors_lift _).bind fun _ _ => mirrors_pure _
  | isSetResultTime =>
    exact (h.readTimes.bind fun _ _ => mirrors_pure _).bind fun _ _ => mirrors_pure _
  | isSetValidTime =>
    exact (h.readTimes.bind fun _ _ => mirrors_lift _).bind fun _ _ => mirrors_pure _
  | mergeObservation => exact h.mergeObservation.bind fun _ _ => mirrors_pure _
  | close => exact h.close.bind fun _ _ => mirrors_pure _

theorem use (h : outer.Wraps inner) (transformer : Option (Transformer σ))
    (s : Stream (σ × τ)) (u : Stream.Use) :
    (u.perform outer (transformer.map (·.onFirst))).Mirrors Stream.seen s
      (u.perform inner transformer) := by
  cases u with
  | call c => exact h.perform c
  | leave thrown =>
    have hclosing : (Stream.closingAfter outer (lift (thrown.elim (.ok ()) .error))).Mirrors
        Stream.seen s (Stream.closingAfter inner (lift (thrown.elim (.ok ()) .error))) := by
      refine (mirrors_lift _).attempt.bind fun a t => ?_
      exact h.close.bind fun _ t => mirrors_lift a
    exact hclosing.bind fun _ _ => mirrors_pure _

/-- **What is beside a source is not seen.** After any uses a stream is what it would be without. -/
theorem afterUses (h : outer.Wraps inner) (transformer : Option (Transformer σ))
    (s : Stream (σ × τ)) (uses : List Stream.Use) :
    (Stream.afterUses outer (transformer.map (·.onFirst)) s uses).seen =
      Stream.afterUses inner transformer s.seen uses := by
  induction uses generalizing s with
  | nil => rfl
  | cons u uses ih =>
    have hrest := ih ((u.perform outer (transformer.map (·.onFirst))).run s).state
    rw [(h.use transformer s u).2] at hrest
    exact hrest

theorem after (h : outer.Wraps inner) (transformer : Option (Transformer σ))
    (s : Stream (σ × τ)) (calls : List Stream.Call) :
    (Stream.after outer (transformer.map (·.onFirst)) s calls).seen =
      Stream.after inner transformer s.seen calls := by
  rw [← Stream.afterUses_map_call, ← Stream.afterUses_map_call]
  exact h.afterUses transformer s _

/-- The answers are what they would be without. -/
theorem trace (h : outer.Wraps inner) (transformer : Option (Transformer σ))
    (s : Stream (σ × τ)) (calls : List Stream.Call) :
    Stream.trace outer (transformer.map (·.onFirst)) s calls =
      Stream.trace inner transformer s.seen calls := by
  induction calls generalizing s with
  | nil => rfl
  | cons c calls ih =>
    have hcall : (c.perform outer (transformer.map (·.onFirst))).Mirrors Stream.seen s
        (c.perform inner transformer) := h.perform c
    rw [Stream.trace, Stream.trace, ih, hcall.1, hcall.2]

end Source.Wraps

end SensorSeries
