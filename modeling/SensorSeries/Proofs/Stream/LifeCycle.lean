import SensorSeries.Proofs.Answers
import SensorSeries.Proofs.Stream.Mirrors
import SensorSeries.Rehearsal.Source

/-!
# The life of a stream

A stream has two flags: it is exhausted when its source has no more entities, and closed when it was
closed; both are for good. `Source.logged` lists everything that a source is asked, with its answers,
and `Advanced` tells what the flags have to do with such a list: what came to it has exhausted the
stream exactly if it holds an end, an exhausted stream has fetched nothing more, and closing has
released the source once. Each operation advances a stream, since it does one thing at most
(`nextEntity_logged` and its like), and so does every use.

How a call fails is read off what it has added to the list (`Fault`): it fails if the source does, or
the conversion of what it has fetched, and for no other reason. A source is arbitrary, and so is what
its entities are converted to, since an entity may carry all that its conversion depends on. The list
itself cannot be seen by the reader (`Source.logged_wraps`).
-/

namespace SensorSeries

/-- What a source was asked, and its answer. -/
inductive SourceEvent (ε : Type) where
  | fetched (answer : Except Failure (Option ε))
  | unit (answer : Except Failure UnitOfMeasure)
  | times (answer : Except Failure (Option Times))
  | released (answer : Except Failure Unit)

namespace SourceEvent

variable {ε : Type}

def isFetch : SourceEvent ε → Bool
  | .fetched _ => true
  | _ => false

def isRelease : SourceEvent ε → Bool
  | .released _ => true
  | _ => false

/-- After this the source has nothing more to give: it has said so, or it was released. -/
def isEnd : SourceEvent ε → Bool
  | .fetched (.ok none) | .released _ => true
  | _ => false

theorem isEnd_eq_true_iff {e : SourceEvent ε} :
    e.isEnd = true ↔ e = .fetched (.ok none) ∨ e.isRelease = true := by
  rcases e with (_ | _ | _) | _ | _ | _ <;> simp [isEnd, isRelease]

end SourceEvent

/-- Whether a conversion fails in this way, given the unit that the stream knows. -/
def Conversion.FailsWith (unit : Option UnitOfMeasure) (cause : Failure) : Conversion → Prop
  | .done s => s = .error cause
  | .withUnit f => ∃ u ∈ unit, f u = .error cause

namespace Source

open SensorSeries.Action

variable {σ ε ι α : Type}

/-- Lists what an action has answered. -/
def listing (event : Except Failure α → ι) (x : Action σ α) : Action (σ × List ι) α := do
  let a ← (onFirst x).attempt
  Action.modify fun (b, log) => (b, log ++ [event a])
  Action.lift a

/-- A source that lists all it is asked. -/
def logged (src : Source σ ε) : Source (σ × List (SourceEvent ε)) ε :=
  { src.beside with
    fetch := listing .fetched src.fetch
    unit := listing .unit src.unit
    times := listing .times src.times
    release := listing .released src.release }

theorem endsIn_listing (event : Except Failure α → ι) (x : Action σ α) (b : σ × List ι)
    (Q : Except Failure α → σ × List ι → Prop) :
    (listing event x).EndsIn b Q ↔ x.EndsIn b.1 fun a b' => Q a (b', b.2 ++ [event a]) := by
  unfold EndsIn
  rfl

/-- Listing what a source is asked changes nothing about it. -/
theorem logged_wraps (src : Source σ ε) : src.logged.Wraps src where
  name_eq := rfl
  fetch _ := ⟨rfl, rfl⟩
  unit _ := ⟨rfl, rfl⟩
  times _ := ⟨rfl, rfl⟩
  release _ := ⟨rfl, rfl⟩
  convert_eq := rfl
  pending_eq _ := rfl

end Source

namespace Stream

open SensorSeries.Action

variable {σ ε : Type} {src : Source σ ε} {transformer : Option (Transformer σ)}
  {s t u : Stream (σ × List (SourceEvent ε))} {new xs ys : List (SourceEvent ε)} {f : Failure}

/-! ## What the operations do -/

section Steps

variable (src : Source σ ε) (s : Stream (σ × List (SourceEvent ε)))

theorem nextEntity_logged : (nextEntity src.logged).EndsIn s fun a t =>
    (s.exhausted = true ∧ a = .ok none ∧ t = s) ∨
    (s.exhausted = false ∧ ∃ b r, a = r.mapError (report src .fetching) ∧
      t = { s with
        backing := (b, s.backing.2 ++ [.fetched r])
        exhausted := (SourceEvent.fetched r).isEnd }) := by
  rw [endsIn_nextEntity]
  split
  · next hs => exact .inl ⟨hs, rfl, rfl⟩
  · next hs =>
    have hs : s.exhausted = false := by simpa using hs
    refine (Source.endsIn_listing ..).2 (EndsIn.of_forall src.fetch s.backing.1 ?_)
    rintro (e | _ | e) b
    · exact .inr ⟨hs, b, .error e, rfl, by simp [hs, SourceEvent.isEnd]⟩
    · exact .inr ⟨hs, b, .ok none, rfl, rfl⟩
    · exact .inr ⟨hs, b, .ok (some e), rfl, by simp [hs, SourceEvent.isEnd]⟩

theorem readUnit_logged : (readUnit src.logged).EndsIn s fun a t =>
    (∃ u, s.unit.known = some u ∧ a = .ok u ∧ t = s) ∨
    (s.unit.known = none ∧ ∃ b r, a = r.mapError (report src .queryingUnit) ∧
      t = { s with backing := (b, s.backing.2 ++ [.unit r]), unit := ⟨r.toOption⟩ }) := by
  rw [endsIn_readUnit]
  split
  · next u hu => exact .inl ⟨u, hu, rfl, rfl⟩
  · next hnone =>
    have hunit : s.unit = ⟨none⟩ := by rw [← hnone]
    refine (Source.endsIn_listing ..).2 (EndsIn.of_forall src.unit s.backing.1 ?_)
    rintro (e | u) b
    · exact .inr ⟨hnone, b, .error e, rfl, by rw [hunit]; rfl⟩
    · exact .inr ⟨hnone, b, .ok u, rfl, rfl⟩

theorem readTimes_logged : (readTimes src.logged).EndsIn s fun a t =>
    (∃ ts, s.times.known = some ts ∧ a = .ok (ts.getD {}) ∧ t = s) ∨
    (s.times.known = none ∧ ∃ b r,
      a = (r.map (·.getD {})).mapError (report src .queryingTimes) ∧
      t = { s with backing := (b, s.backing.2 ++ [.times r]), times := ⟨r.toOption⟩ }) := by
  rw [endsIn_readTimes]
  split
  · next ts hts => exact .inl ⟨ts, hts, rfl, rfl⟩
  · next hnone =>
    have htimes : s.times = ⟨none⟩ := by rw [← hnone]
    refine (Source.endsIn_listing ..).2 (EndsIn.of_forall src.times s.backing.1 ?_)
    rintro (e | ts) b
    · exact .inr ⟨hnone, b, .error e, rfl, by rw [htimes]; rfl⟩
    · exact .inr ⟨hnone, b, .ok ts, rfl, rfl⟩

theorem close_logged : (close src.logged).EndsIn s fun a t =>
    (s.closed = true ∧ a = .ok () ∧ t = s) ∨
    (s.closed = false ∧ ∃ b, t = { s with
      backing := (b, s.backing.2 ++ [.released a]), exhausted := true, closed := true }) := by
  rw [endsIn_close]
  split
  · next hs => exact .inl ⟨hs, rfl, rfl⟩
  · next hs =>
    have hs : s.closed = false := by simpa using hs
    refine (Source.endsIn_listing ..).2 (EndsIn.of_forall src.release s.backing.1 ?_)
    exact fun a b => .inr ⟨hs, b, rfl⟩

end Steps

/-! ## Flags and events -/

/-- What has become of a stream, by what its source was asked since. -/
structure Advanced (s : Stream (σ × List (SourceEvent ε))) (new : List (SourceEvent ε))
    (t : Stream (σ × List (SourceEvent ε))) : Prop where
  log : t.backing.2 = s.backing.2 ++ new
  exhausted : t.exhausted = (s.exhausted || new.any (·.isEnd))
  quiet : s.exhausted = true → ∀ e ∈ new, e.isFetch = false
  releases : new.countP (·.isRelease) + s.closed.toNat = t.closed.toNat

namespace Advanced

theorem refl (s : Stream (σ × List (SourceEvent ε))) : Advanced s [] s where
  log := by simp
  exhausted := by simp
  quiet := by simp
  releases := by simp

theorem trans (hst : Advanced s xs t) (htu : Advanced t ys u) : Advanced s (xs ++ ys) u where
  log := by rw [htu.log, hst.log, List.append_assoc]
  exhausted := by rw [htu.exhausted, hst.exhausted, List.any_append, Bool.or_assoc]
  quiet := by
    intro hs e he
    have ht : t.exhausted = true := by rw [hst.exhausted, hs, Bool.true_or]
    rcases List.mem_append.1 he with he | he
    · exact hst.quiet hs e he
    · exact htu.quiet ht e he
  releases := by
    have hx := hst.releases
    have hy := htu.releases
    rw [List.countP_append]
    omega

/-- One thing that a source was asked. -/
theorem event {e : SourceEvent ε} (hlog : t.backing.2 = s.backing.2 ++ [e])
    (hexhausted : t.exhausted = (s.exhausted || e.isEnd))
    (hfetch : e.isFetch = true → s.exhausted = false)
    (hclosed : t.closed = (s.closed || e.isRelease))
    (hrelease : e.isRelease = true → s.closed = false) : Advanced s [e] t where
  log := hlog
  exhausted := by simpa using hexhausted
  quiet := by
    intro hs x hx
    obtain rfl := List.mem_singleton.1 hx
    rw [Bool.eq_false_iff]
    intro hx
    simp [hfetch hx] at hs
  releases := by
    cases he : e.isRelease with
    | true => simp [he, hclosed, hrelease he]
    | false => simp [he, hclosed]

/-- What is not about the source and the flags may change. -/
theorem congr (h : Advanced s new t) (hlog : u.backing.2 = t.backing.2)
    (hexhausted : u.exhausted = t.exhausted) (hclosed : u.closed = t.closed) :
    Advanced s new u where
  log := hlog.trans h.log
  exhausted := hexhausted.trans h.exhausted
  quiet := h.quiet
  releases := by rw [hclosed, h.releases]

end Advanced

/-- A stream that uses have led to. -/
def Reaches (s t : Stream (σ × List (SourceEvent ε))) : Prop := ∃ new, Advanced s new t

namespace Reaches

theorem trans (hst : Reaches s t) (htu : Reaches t u) : Reaches s u := by
  obtain ⟨xs, hxs⟩ := hst
  obtain ⟨ys, hys⟩ := htu
  exact ⟨xs ++ ys, hxs.trans hys⟩

theorem congr (h : Reaches s t) (hlog : u.backing.2 = t.backing.2)
    (hexhausted : u.exhausted = t.exhausted) (hclosed : u.closed = t.closed) : Reaches s u := by
  obtain ⟨new, hnew⟩ := h
  exact ⟨new, hnew.congr hlog hexhausted hclosed⟩

theorem nextEntity (hs : Reaches s t) :
    (nextEntity src.logged).EndsIn t fun _ u => Reaches s u := by
  refine (nextEntity_logged src t).mono ?_
  intro a u h
  rcases h with ⟨-, -, rfl⟩ | ⟨hopen, b, r, -, rfl⟩
  · exact hs
  · refine hs.trans ⟨_, .event rfl ?_ (fun _ => hopen) ?_ nofun⟩
    · rw [hopen, Bool.false_or]
    · exact (Bool.or_false _).symm

theorem readUnit (hs : Reaches s t) : (readUnit src.logged).EndsIn t fun _ u => Reaches s u := by
  refine (readUnit_logged src t).mono ?_
  intro a u h
  rcases h with ⟨v, -, -, rfl⟩ | ⟨-, b, r, -, rfl⟩
  · exact hs
  · exact hs.trans ⟨_, .event rfl (Bool.or_false _).symm nofun (Bool.or_false _).symm nofun⟩

theorem readTimes (hs : Reaches s t) :
    (readTimes src.logged).EndsIn t fun _ u => Reaches s u := by
  refine (readTimes_logged src t).mono ?_
  intro a u h
  rcases h with ⟨v, -, -, rfl⟩ | ⟨-, b, r, -, rfl⟩
  · exact hs
  · exact hs.trans ⟨_, .event rfl (Bool.or_false _).symm nofun (Bool.or_false _).symm nofun⟩

theorem close (hs : Reaches s t) : (close src.logged).EndsIn t fun _ u => Reaches s u := by
  refine (close_logged src t).mono ?_
  intro a u h
  rcases h with ⟨-, -, rfl⟩ | ⟨hopen, b, rfl⟩
  · exact hs
  · exact hs.trans ⟨_, .event rfl (Bool.or_true _).symm nofun (Bool.or_true _).symm fun _ => hopen⟩

theorem modified (ps : ParameterSet) (hs : Reaches s t) :
    (modified (transformer.map (·.onFirst)) ps).EndsIn t fun _ u => Reaches s u := by
  refine (modified_onFirst_frame t ps).mono ?_
  rintro _ u ⟨b, rfl, hb⟩
  exact hs.congr hb rfl rfl

theorem keeps : Keeps src.logged fun _ => Reaches s where
  nextEntity hs := hs.nextEntity
  readUnit hs := hs.readUnit
  fail _ hs := hs
  report _ hs := hs

/-- Every use of a stream advances it. -/
theorem afterUses (src : Source σ ε) (transformer : Option (Transformer σ))
    (s : Stream (σ × List (SourceEvent ε))) (uses : List Use) :
    Reaches s (afterUses src.logged (transformer.map (·.onFirst)) s uses) :=
  keeps.afterUses readTimes (fun _ hs => hs.congr rfl rfl rfl) close modified uses ⟨[], .refl s⟩

end Reaches

/-! ## Failures -/

/-- What has gone wrong in a call, by what it has asked the source. Only a call for the next sample
converts what it has fetched. -/
def Fault (src : Source σ ε) (c : Call) (new : List (SourceEvent ε)) (unit : Option UnitOfMeasure)
    (cause : Failure) : Stage → Prop
  | .fetching => .fetched (.error cause) ∈ new
  | .converting => c = .nextValue ∧
      ∃ e, .fetched (.ok (some e)) ∈ new ∧ (src.convert e).FailsWith unit cause
  | .queryingTimes => .times (.error cause) ∈ new
  | .queryingUnit => .unit (.error cause) ∈ new

/-- A call that has asked the source for this fails if something has gone wrong, and tells what. -/
def Reports (src : Source σ ε) (c : Call) (s : Stream (σ × List (SourceEvent ε)))
    (thrown : Option Failure) (t : Stream (σ × List (SourceEvent ε))) : Prop :=
  ∃ new, t.backing.2 = s.backing.2 ++ new ∧ ∀ f, thrown = some f ↔
    ∃ stage cause, Fault src c new t.unit.known cause stage ∧ f = report src stage cause

/-- Every failure that is reported is one of a query: that of the source if it is one, or else one with
that of the source as its cause. -/
theorem Reports.iff {α : Type} {c : Call} {a : Except Failure α}
    (h : Reports src c s (failureOf a) t) :
    ∃ new, t.backing.2 = s.backing.2 ++ new ∧ ∀ f, a = .error f ↔ f.isQuery = true ∧
      ∃ stage cause, Fault src c new t.unit.known cause stage ∧
        f = if cause.isQuery then cause else .stream src.name stage cause := by
  obtain ⟨new, hnew, hreports⟩ := h
  refine ⟨new, hnew, ?_⟩
  intro f
  rw [← failureOf_eq_some, hreports]
  constructor
  · intro ⟨stage, cause, hfault, hf⟩
    exact ⟨hf ▸ isQuery_report src stage cause, stage, cause, hfault, hf⟩
  · intro ⟨_, stage, cause, hfault, hf⟩
    exact ⟨stage, cause, hfault, hf⟩

theorem exists_stage_iff {P : Stage → Prop} : (∃ stage, P stage) ↔
    P .fetching ∨ P .converting ∨ P .queryingTimes ∨ P .queryingUnit := by
  constructor
  · intro ⟨stage, h⟩
    cases stage <;> simp [h]
  · intro h
    rcases h with h | h | h | h <;> exact ⟨_, h⟩

theorem nextEntity_reports (src : Source σ ε) (s : Stream (σ × List (SourceEvent ε))) :
    (nextEntity src.logged).EndsIn s fun a t => Reports src .nextEntity s (failureOf a) t := by
  refine (nextEntity_logged src s).mono ?_
  intro a t h
  rcases h with ⟨-, rfl, rfl⟩ | ⟨-, b, r, rfl, rfl⟩
  · refine ⟨[], by simp, ?_⟩
    simp [exists_stage_iff, Fault]
  · refine ⟨_, rfl, ?_⟩
    cases r <;> simp [exists_stage_iff, Fault, eq_comm]

theorem readUnit_reports (src : Source σ ε) (c : Call) (s : Stream (σ × List (SourceEvent ε))) :
    (readUnit src.logged).EndsIn s fun a t => Reports src c s (failureOf a) t := by
  refine (readUnit_logged src s).mono ?_
  intro a t h
  rcases h with ⟨u, -, rfl, rfl⟩ | ⟨-, b, r, rfl, rfl⟩
  · refine ⟨[], by simp, ?_⟩
    simp [exists_stage_iff, Fault]
  · refine ⟨_, rfl, ?_⟩
    cases r <;> simp [exists_stage_iff, Fault, eq_comm]

theorem readTimes_reports (src : Source σ ε) (c : Call) (s : Stream (σ × List (SourceEvent ε))) :
    (readTimes src.logged).EndsIn s fun a t => Reports src c s (failureOf a) t := by
  refine (readTimes_logged src s).mono ?_
  intro a t h
  rcases h with ⟨ts, -, rfl, rfl⟩ | ⟨-, b, r, rfl, rfl⟩
  · refine ⟨[], by simp, ?_⟩
    simp [exists_stage_iff, Fault]
  · refine ⟨_, rfl, ?_⟩
    cases r <;> simp [exists_stage_iff, Fault, eq_comm, Except.map]

/-- A conversion asks the source for nothing but the unit, if it needs one that is not known. It fails
with the query, or by itself. -/
theorem convert_logged (src : Source σ ε) (s : Stream (σ × List (SourceEvent ε))) (e : ε) :
    (convert src.logged e).EndsIn s fun a t => ∃ new, t.backing.2 = s.backing.2 ++ new ∧
      (∀ x ∈ new, ∃ r, x = .unit r) ∧ ∀ f, a = .error f ↔
        (∃ cause, .unit (.error cause) ∈ new ∧ f = report src .queryingUnit cause) ∨
        (src.convert e).FailsWith t.unit.known f := by
  change (match src.convert e with
    | .done r => lift r
    | .withUnit g => do lift (g (← readUnit src.logged))).EndsIn s _
  cases src.convert e with
  | done r =>
    rw [endsIn_lift]
    exact ⟨[], by simp, by simp, by simp [Conversion.FailsWith]⟩
  | withUnit g =>
    dsimp only
    rw [endsIn_bind]
    refine (readUnit_logged src s).mono ?_
    intro a t h
    rcases h with ⟨u, hu, rfl, rfl⟩ | ⟨-, b, r, rfl, rfl⟩
    · rw [continues_ok, endsIn_lift]
      refine ⟨[], by simp, by simp, ?_⟩
      simp [Conversion.FailsWith, hu]
    · cases r with
      | error cause =>
        refine ⟨_, rfl, by simp, ?_⟩
        simp [Conversion.FailsWith, eq_comm]
      | ok u =>
        rw [mapError_ok, continues_ok, endsIn_lift]
        refine ⟨_, rfl, by simp, ?_⟩
        simp [Conversion.FailsWith]

/-- The next sample is made of the next entity, with the unit if the conversion needs it. -/
theorem nextValue_reports (src : Source σ ε) (s : Stream (σ × List (SourceEvent ε))) :
    (nextValue src.logged).EndsIn s fun a t => Reports src .nextValue s (failureOf a) t := by
  unfold nextValue
  rw [endsIn_bind]
  refine (nextEntity_logged src s).mono ?_
  intro a t h
  rcases h with ⟨-, rfl, rfl⟩ | ⟨-, b, r, rfl, rfl⟩
  · refine ⟨[], by simp, ?_⟩
    simp [exists_stage_iff, Fault]
  · rcases r with e | _ | e
    · refine ⟨_, rfl, ?_⟩
      simp [exists_stage_iff, Fault, eq_comm]
    · refine ⟨_, rfl, ?_⟩
      simp [exists_stage_iff, Fault]
    · rw [mapError_ok, continues_ok]
      refine EndsIn.bind_failure ?_ fun _ _ ht => ht
      rw [endsIn_guarded]
      refine (convert_logged src _ e).mono ?_
      intro a t h
      obtain ⟨new, hlog, hunits, hfails⟩ := h
      refine ⟨_, hlog.trans (List.append_assoc ..), ?_⟩
      intro f
      have hfetched (r : Except Failure (Option ε)) : SourceEvent.fetched r ∉ new := by
        intro hr
        obtain ⟨r, hr⟩ := hunits _ hr
        cases hr
      have htimes (r : Except Failure (Option Times)) : SourceEvent.times r ∉ new := by
        intro hr
        obtain ⟨r, hr⟩ := hunits _ hr
        cases hr
      have hfault : (∃ stage cause, Fault src .nextValue ([.fetched (.ok (some e))] ++ new)
            t.unit.known cause stage ∧ f = report src stage cause) ↔
          (∃ cause, (src.convert e).FailsWith t.unit.known cause ∧
            f = report src .converting cause) ∨
          ∃ cause, .unit (.error cause) ∈ new ∧ f = report src .queryingUnit cause := by
        simp [exists_stage_iff, Fault, hfetched, htimes]
      rw [failureOf_eq_some, mapError_eq_error, hfault]
      simp only [hfails]
      constructor
      · intro ⟨g, hg, hf⟩
        rcases hg with ⟨cause, hcause, rfl⟩ | hg
        · -- the query was reported before, which is what the reader is told
          exact .inr ⟨cause, hcause, hf.trans (report_of_isQuery _ _ (isQuery_report ..))⟩
        · exact .inl ⟨g, hg, hf⟩
      · intro h
        rcases h with ⟨cause, hcause, rfl⟩ | ⟨cause, hcause, rfl⟩
        · exact ⟨cause, .inr hcause, rfl⟩
        · exact ⟨_, .inl ⟨cause, hcause, rfl⟩, (report_of_isQuery _ _ (isQuery_report ..)).symm⟩

/-- Whether a call asks the source for one thing, and fails only with that. -/
def Call.isGuarded : Call → Bool
  | .nextEntity | .nextValue | .unit | .isSetUnit | .times | .isSetResultTime => true
  | _ => false

theorem Call.perform_reports (src : Source σ ε) (transformer : Option (Transformer σ))
    (s : Stream (σ × List (SourceEvent ε))) {c : Call} (hc : c.isGuarded = true) :
    (c.perform src.logged (transformer.map (·.onFirst))).EndsIn s fun a t =>
      Reports src c s (failureOf a) t := by
  cases c with
  | nextEntity => exact (nextEntity_reports src s).bind_failure fun _ _ ht => ht
  | nextValue => exact (nextValue_reports src s).bind_failure fun _ _ ht => ht
  | unit => exact (readUnit_reports src .unit s).bind_failure fun _ _ ht => ht
  | isSetUnit =>
    have hflag : (Stream.isSetUnit src.logged).EndsIn s fun a t =>
        Reports src .isSetUnit s (failureOf a) t :=
      (readUnit_reports src .isSetUnit s).bind_failure fun _ _ ht => ht
    exact hflag.bind_failure fun _ _ ht => ht
  | times => exact (readTimes_reports src .times s).bind_failure fun _ _ ht => ht
  | isSetResultTime =>
    have hflag : (Stream.isSetResultTime src.logged).EndsIn s fun a t =>
        Reports src .isSetResultTime s (failureOf a) t :=
      (readTimes_reports src .isSetResultTime s).bind_failure fun _ _ ht => ht
    exact hflag.bind_failure fun _ _ ht => ht
  | _ => cases hc

/-! ## The next entity or sample -/

section Next

variable {σ : Type} {src : Source σ ε} {transformer : Option (Transformer σ)} {s : Stream σ}

theorem nextValue_exhausted (hs : s.exhausted = true) :
    (nextValue src).EndsIn s fun a t => a = .ok none ∧ t = s := by
  unfold nextValue
  rw [endsIn_bind, endsIn_nextEntity, if_pos hs]
  exact ⟨rfl, rfl⟩

theorem take_exhausted (hs : s.exhausted = true) (n : Nat) :
    (take src n).EndsIn s fun a _ => a = .ok [] := by
  cases n with
  | zero => rfl
  | succ n =>
    refine EndsIn.bind_ok (nextValue_exhausted hs) ?_
    exact fun t _ => rfl

/-- An exhausted stream has no next entity and no next sample. -/
theorem Call.perform_exhausted (hs : s.exhausted = true) {c : Call} (hc : c.isNext = true) :
    (c.perform src transformer).EndsIn s fun a _ => ∃ r, a = .ok r ∧ r.isEnd = true := by
  cases c with
  | nextEntity =>
    unfold Call.perform
    rw [endsIn_bind, endsIn_nextEntity, if_pos hs]
    exact ⟨_, rfl, rfl⟩
  | nextValue =>
    refine EndsIn.bind_ok (nextValue_exhausted hs) ?_
    exact fun t _ => ⟨_, rfl, rfl⟩
  | _ => cases hc

theorem convert_exhausted (src : Source σ ε) (s : Stream σ) (e : ε) :
    (convert src e).EndsIn s fun _ t => t.exhausted = s.exhausted := by
  unfold convert
  cases src.convert e with
  | done r => rfl
  | withUnit g => exact ((readUnit_flags src s).mono fun _ _ h => h.1).bind_lift g

theorem nextEntity_failed (src : Source σ ε) (s : Stream σ) :
    (nextEntity src).EndsIn s fun a t => a ≠ .ok none → t.exhausted = s.exhausted := by
  rw [endsIn_nextEntity]
  split
  · exact fun _ => rfl
  · refine EndsIn.of_forall _ _ ?_
    rintro (f | _ | e) b
    · exact fun _ => rfl
    · exact fun h => absurd rfl h
    · exact fun _ => rfl

theorem nextValue_failed (src : Source σ ε) (s : Stream σ) :
    (nextValue src).EndsIn s fun a t => ∀ f, a = .error f → t.exhausted = s.exhausted := by
  unfold nextValue
  rw [endsIn_bind]
  refine (nextEntity_failed src s).mono ?_
  rintro (f | _ | e) t ht
  · exact fun _ _ => ht nofun
  · exact nofun
  · rw [continues_ok, endsIn_bind, endsIn_guarded]
    refine (convert_exhausted src t e).mono ?_
    rintro (f | x) u hu
    · exact fun _ _ => hu.trans (ht nofun)
    · exact nofun

/-- A call for an entity, for a sample or for what is known of the whole does not exhaust the stream
if it fails. -/
theorem Call.perform_failed (src : Source σ ε) (transformer : Option (Transformer σ))
    (s : Stream σ) {c : Call} (hc : c.isRead = true) :
    (c.perform src transformer).EndsIn s fun a t => ∀ f, a = .error f →
      t.exhausted = s.exhausted := by
  by_cases hnext : c.isNext = true
  · cases c with
    | nextEntity =>
      unfold Call.perform
      rw [endsIn_bind]
      refine (nextEntity_failed src s).mono ?_
      rintro (f | e) t ht
      · exact fun _ _ => ht nofun
      · exact nofun
    | nextValue =>
      unfold Call.perform
      rw [endsIn_bind]
      refine (nextValue_failed src s).mono ?_
      rintro (f | x) t ht
      · exact fun _ _ => ht f rfl
      · exact nofun
    | _ => cases hnext
  · have hkept : (c.perform src transformer).EndsIn s fun _ t => t.exhausted = s.exhausted := by
      apply Call.perform_preserves (P := fun t => t.exhausted = s.exhausted)
      · exact fun t ht => (readUnit_flags src t).mono fun _ _ h => h.1.trans ht
      · exact fun t ht => (readTimes_flags src t).mono fun _ _ h => h.1.trans ht
      · exact hc
      · simpa using hnext
      · rfl
    exact hkept.mono fun _ _ ht _ _ => ht

/-- Going through some samples is asking for one after the other, and fails as the last of these
calls does. -/
theorem endsIn_take (src : Source σ ε) (transformer : Option (Transformer σ)) (s : Stream σ)
    (n : Nat) :
    let asked (k : Nat) := afterUses src transformer s (List.replicate k (.call .nextValue))
    (take src n).EndsIn s fun a t => ∃ k ≤ n, t = asked k ∧ ∀ f, a = .error f →
      ∃ j, k = j + 1 ∧ (nextValue src).EndsIn (asked j) fun b _ => b = .error f := by
  induction n generalizing s with
  | zero => exact ⟨0, Nat.le_refl 0, rfl, nofun⟩
  | succ n ih =>
    intro asked
    have hstate : (((Use.call .nextValue).perform src transformer).run s).state =
        ((nextValue src).run s).state := by
      change ((nextValue src >>= fun x => Pure.pure (Reply.sample x)).run s).state = _
      rw [run_bind]
      cases ((nextValue src).run s).answer <;> rfl
    have hasked (k : Nat) : asked (k + 1) = afterUses src transformer
        ((nextValue src).run s).state (List.replicate k (.call .nextValue)) := by
      rw [← hstate]
      rfl
    rw [take, endsIn_bind]
    change Continues _ _ ((nextValue src).run s).answer ((nextValue src).run s).state
    rcases hanswer : ((nextValue src).run s).answer with f | _ | x
    · refine ⟨1, by omega, (hasked 0).symm, ?_⟩
      rintro _ ⟨⟩
      exact ⟨0, rfl, hanswer⟩
    · exact ⟨1, by omega, (hasked 0).symm, nofun⟩
    · rw [continues_ok, endsIn_bind]
      refine (ih ((nextValue src).run s).state).mono ?_
      rintro (f | xs) t ⟨k, hk, rfl, hfailed⟩
      · refine ⟨k + 1, by omega, (hasked k).symm, ?_⟩
        rintro _ ⟨⟩
        obtain ⟨j, rfl, hj⟩ := hfailed f rfl
        refine ⟨j + 1, rfl, ?_⟩
        rw [hasked]
        exact hj
      · exact ⟨k + 1, by omega, (hasked k).symm, nofun⟩

end Next

/-! ## A whole life -/

/-- A stream that was not closed has been closed if its source was released since. -/
theorem Advanced.closed_iff (h : Advanced s new t) (hclosed : s.closed = false) :
    t.closed = true ↔ ∃ e ∈ new, e.isRelease = true := by
  have hreleases := h.releases
  rw [hclosed, Bool.toNat_false, Nat.add_zero] at hreleases
  rw [← List.countP_pos_iff, hreleases]
  cases t.closed <;> simp

theorem Advanced.exhausted_iff (h : Advanced s new t) (hexhausted : s.exhausted = false)
    (hclosed : s.closed = false) :
    t.exhausted = true ↔ t.closed = true ∨ .fetched (.ok none) ∈ new := by
  rw [h.exhausted, hexhausted, Bool.false_or, List.any_eq_true, h.closed_iff hclosed]
  simp only [SourceEvent.isEnd_eq_true_iff]
  constructor
  · intro ⟨e, he, hend⟩
    rcases hend with rfl | hrelease
    · exact .inr he
    · exact .inl ⟨e, he, hrelease⟩
  · intro hend
    rcases hend with ⟨e, he, hrelease⟩ | he
    · exact ⟨e, he, .inr hrelease⟩
    · exact ⟨_, he, .inl rfl⟩

/-- **The life of a stream.** Whatever a stream is used for and whatever fails: a closed stream is
exhausted, and a stream is exhausted if it is closed or its source has said that there is no more, and
only then. The uses that close a stream close it, and release its source once, all together. What is
exhausted stays so, fetches nothing more and has no next entity and no next sample; going through the
samples is asking for one after the other. A call for an entity, for a sample or for what is known of
the whole does not exhaust the stream if it fails. A call that asks the source fails if the source
does or the conversion of what was fetched, and for no other reason; the reader is told of a failed
query, which is that of the source or has the failure of the source as its cause. All this is told of
a source that lists what it is asked; a reader does not see the difference. -/
theorem life_cycle (src : Source σ ε) (transformer : Option (Transformer σ))
    (template : Observation) (options : List (String × Datum)) (b : σ) (uses : List Use) :
    let logged := src.logged
    let beside := transformer.map (·.onFirst)
    let left uses := afterUses logged beside { backing := (b, []), template, options } uses
    let log uses := (left uses).backing.2
    let s := left uses
    (s.seen = afterUses src transformer { backing := b, template, options } uses ∧
      ∀ c : Call, (c.perform logged beside).Mirrors seen s (c.perform src transformer)) ∧
    (s.closed = true → s.exhausted = true) ∧
    (s.exhausted = true ↔ s.closed = true ∨ .fetched (.ok none) ∈ log uses) ∧
    (s.closed = true ↔ ∃ u ∈ uses, u.closes = true) ∧
    (log uses).countP (·.isRelease) = (if uses.any (·.closes) then 1 else 0) ∧
    (∀ later, ∃ new, log (uses ++ later) = log uses ++ new ∧ (s.exhausted = true →
      (left (uses ++ later)).exhausted = true ∧ ∀ e ∈ new, e.isFetch = false)) ∧
    (∀ n, (take logged n).EndsIn s fun a t => (s.exhausted = true → a = .ok []) ∧
      ∃ k ≤ n, t = left (uses ++ List.replicate k (.call .nextValue)) ∧ ∀ f, a = .error f →
        ∃ j, k = j + 1 ∧ (nextValue logged).EndsIn
          (left (uses ++ List.replicate j (.call .nextValue))) fun a _ => a = .error f) ∧
    ∀ c : Call, (c.perform logged beside).EndsIn s fun a t =>
      (c.isNext = true → s.exhausted = true → ∃ r, a = .ok r ∧ r.isEnd = true) ∧
      (c.isRead = true → ∀ f, a = .error f → t.exhausted = s.exhausted) ∧
      (c.isGuarded = true → ∃ new, t.backing.2 = log uses ++ new ∧
        ∀ f, a = .error f ↔ f.isQuery = true ∧ ∃ stage cause,
          Fault src c new t.unit.known cause stage ∧
          f = if cause.isQuery then cause else .stream src.name stage cause) := by
  intro logged beside left log s
  let start : Stream (σ × List (SourceEvent ε)) := { backing := (b, []), template, options }
  have happend (later : List Use) :
      left (uses ++ later) = afterUses logged beside (left uses) later := afterUses_append ..
  obtain ⟨new, h⟩ : Reaches start s := Reaches.afterUses src transformer start uses
  have hlog : log uses = new := h.log
  have hclosed : s.closed = uses.any (·.closes) := closed_afterUses logged beside start uses
  have hexhausted := h.exhausted_iff rfl rfl
  rw [hlog]
  have hwraps : logged.Wraps src := src.logged_wraps
  refine ⟨⟨hwraps.afterUses transformer start uses, hwraps.perform⟩,
    fun hs => hexhausted.2 (.inl hs), hexhausted, ?_, ?_, ?_, ?_, ?_⟩
  · rw [hclosed, List.any_eq_true]
  · have hreleases : new.countP (·.isRelease) = s.closed.toNat := h.releases
    rw [hreleases, hclosed]
    cases uses.any (·.closes) <;> rfl
  · intro later
    obtain ⟨more, hmore⟩ := Reaches.afterUses src transformer s later
    rw [← happend] at hmore
    refine ⟨more, by rw [← hlog]; exact hmore.log, fun hs => ⟨?_, hmore.quiet hs⟩⟩
    rw [hmore.exhausted, hs, Bool.true_or]
  · intro n
    have hnone : (take logged n).EndsIn s fun a _ => s.exhausted = true → a = .ok [] :=
      fun hs => take_exhausted hs n
    refine (hnone.and (endsIn_take logged beside s n)).mono ?_
    intro a t ⟨hnone, k, hk, ht, hfailed⟩
    refine ⟨hnone, k, hk, ht.trans (happend _).symm, ?_⟩
    intro f hf
    obtain ⟨j, hj, hvalue⟩ := hfailed f hf
    exact ⟨j, hj, happend _ ▸ hvalue⟩
  · intro c
    have hnext : (c.perform logged beside).EndsIn s fun a _ =>
        c.isNext = true → s.exhausted = true → ∃ r, a = .ok r ∧ r.isEnd = true :=
      fun hc hs => Call.perform_exhausted hs hc
    have hfailed : (c.perform logged beside).EndsIn s fun a t =>
        c.isRead = true → ∀ f, a = .error f → t.exhausted = s.exhausted :=
      fun hc => Call.perform_failed logged beside s hc
    have hreports : (c.perform logged beside).EndsIn s fun a t =>
        c.isGuarded = true → Reports src c s (failureOf a) t :=
      fun hc => Call.perform_reports src transformer s hc
    refine ((hnext.and hfailed).and hreports).mono ?_
    intro a t ⟨⟨hnext, hfailed⟩, hreports⟩
    exact ⟨hnext, hfailed, fun hc => hlog ▸ (hreports hc).iff⟩

end Stream

end SensorSeries
