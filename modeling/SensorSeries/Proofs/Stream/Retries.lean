import SensorSeries.Proofs.Stream.Delivery
import SensorSeries.Proofs.Stream.Metadata

/-!
# Retries

A reader may ask for the next sample again when that has failed. A source `Recovers` a list if its
failures are passing: one to fetch takes no entity, and one to tell the unit changes nothing. Still
the stream takes an entity before it asks for the unit, and does not put it back. So what the reader
gets is the list without the entities that were taken while the unit could not be told, which are
the first ones, as many as there were such failures (`Retried.run`).
-/

namespace SensorSeries

variable {σ ε : Type}

namespace Source

/-- The source gives the entities of a list one after the other; it may fail, but then it can be
asked again. Every sample is made with the unit. -/
structure Recovers (src : Source σ ε) (entities : List ε) (unit : UnitOfMeasure)
    (reached : Nat → σ → Prop) : Prop where
  fetch : ∀ {n b}, reached n b → src.fetch.EndsIn b (Fetched entities True reached n)
  unit : ∀ {n b}, reached n b → src.unit.EndsIn b fun a b =>
    reached n b ∧ ∀ u, a = .ok u → u = unit
  convert : ∀ e, ∃ f, src.convert e = .withUnit f

end Source

/-- Whether a source was asked for the unit and could not tell. -/
def Inquiry.isFailedUnit : Inquiry → Bool
  | .unit (.error _) => true
  | _ => false

namespace Stream

open SensorSeries.Action

/-- The sample in an answer. -/
def sampleOf : Except Failure (Reply ε) → Option Sample
  | .ok (.sample x) => x
  | _ => none

/-- Whether an answer says that there is nothing left. -/
def isEnd : Except Failure (Reply ε) → Bool
  | .ok r => r.isEnd
  | .error _ => false

/-- Of a source and what is listed, how far the source is. -/
def Listing (reached : Nat → σ → Prop) (n : Nat) (b : σ × List Inquiry) : Prop := reached n b.1

/-- A stream of which so many entities were taken, and these samples came. The others were taken when
the source could not tell its unit; that was before any came. -/
structure Retried (entities : List ε) (samples : List Sample) (unit : UnitOfMeasure)
    (reached : Nat → σ → Prop) (n : Nat) (xs : List Sample) (s : Stream (σ × List Inquiry)) :
    Prop where
  delivered : Delivered entities unit (Listing reached) n s
  taken : ∃ missed, samples.take n = missed ++ xs ∧
    missed.length = s.backing.2.countP Inquiry.isFailedUnit
  unknown : s.unit.known = none → xs = []

variable {src : Source σ ε} {entities : List ε} {samples xs : List Sample} {unit : UnitOfMeasure}
  {reached : Nat → σ → Prop} {n : Nat} {s : Stream (σ × List Inquiry)}

theorem Retried.start {b : σ} (hb : reached 0 b) (template : Observation)
    (options : List (String × Datum)) :
    Retried entities samples unit reached 0 [] { backing := (b, []), template, options } where
  delivered := by
    have hlisted : Listing reached 0 (b, ([] : List Inquiry)) := hb
    exact .start hlisted template options
  taken := ⟨[], by simp, rfl⟩
  unknown _ := rfl

theorem filterMap_cons_toList {α β : Type} (f : α → Option β) (a : α) (as : List α) :
    (a :: as).filterMap f = (f a).toList ++ as.filterMap f := by
  cases hf : f a <;> simp [hf]

/-- What came is what was taken after the first failures to tell the unit. -/
theorem Retried.came (hs : Retried entities samples unit reached n xs s) :
    let lost := s.backing.2.countP Inquiry.isFailedUnit
    lost ≤ samples.length ∧ xs <+: samples.drop lost ∧
      (samples.length ≤ n → xs = samples.drop lost) := by
  intro lost
  obtain ⟨missed, htake, hmissed⟩ := hs.taken
  have hsamples : samples = missed ++ (xs ++ samples.drop n) := by
    rw [← List.append_assoc, ← htake, List.take_append_drop]
  have hdrop : samples.drop lost = xs ++ samples.drop n := by
    conv => lhs; rw [hsamples]
    exact List.drop_left' hmissed
  refine ⟨?_, ?_, ?_⟩
  · have hlength := congrArg List.length hsamples
    rw [List.length_append] at hlength
    omega
  · rw [hdrop]
    exact List.prefix_append _ _
  · intro hn
    rw [hdrop, List.drop_of_length_le hn, List.append_nil]

/-! ## One call -/

section Step

variable (h : src.Recovers entities unit reached)

include h

theorem Delivered.nextEntity_recorded
    (hs : Delivered entities unit (Listing reached) n s) :
    (Stream.nextEntity src.recorded).EndsIn s fun a t => (match a with
      | .ok e => e = entities[n]? ∧ Delivered entities unit (Listing reached) (n + 1) t
      | .error e => e.isQuery = true ∧ Delivered entities unit (Listing reached) n t) ∧
      t.unit = s.unit ∧ t.backing.2 = s.backing.2 := by
  have hfetch {n} {b : σ × List Inquiry} (hb : Listing reached n b) :
      src.recorded.fetch.EndsIn b (Source.Fetched entities True (Listing reached) n) := by
    refine (endsIn_onFirst ..).2 ((h.fetch hb).mono ?_)
    rintro (e | e) b hb
    · exact hb
    · exact hb
  have hnext := hs.nextEntity_or src.recorded True hfetch
  refine (hnext.and (endsIn_nextEntity_recorded src s)).mono ?_
  rintro (e | e) t ⟨ht, hunit, -, hlog⟩
  · exact ⟨ht.2, hunit, hlog⟩
  · exact ⟨ht, hunit, hlog⟩

/-- The unit is told and then known, or one more query for it has failed. -/
theorem Delivered.readUnit_recorded
    (hs : Delivered entities unit (Listing reached) n s) :
    (Stream.readUnit src.recorded).EndsIn s fun a t =>
      Delivered entities unit (Listing reached) n t ∧ match a with
        | .ok u => u = unit ∧ t.unit.known ≠ none ∧
          t.backing.2.countP Inquiry.isFailedUnit = s.backing.2.countP Inquiry.isFailedUnit
        | .error _ => s.unit.known = none ∧ t.unit.known = none ∧
          t.backing.2.countP Inquiry.isFailedUnit =
            s.backing.2.countP Inquiry.isFailedUnit + 1 := by
  rw [endsIn_readUnit]
  split
  · next u hu =>
    refine ⟨hs, hs.unit u hu, ?_, rfl⟩
    simp [hu]
  · next hnone =>
    refine (Source.endsIn_recording ..).2 ((h.unit hs.reached).mono ?_)
    rintro (e | u) b ⟨hb, hu⟩
    · exact ⟨⟨hb, hs.exhausted, hs.unit⟩, hnone, hnone, by simp [Inquiry.isFailedUnit]⟩
    · obtain rfl := hu u rfl
      refine ⟨⟨hb, hs.exhausted, ?_⟩, rfl, nofun, by simp [Inquiry.isFailedUnit]⟩
      rintro _ ⟨⟩
      rfl

/-- The sample that an entity makes, or a failure because the unit could not be told. -/
theorem Delivered.convert_recorded {e : ε} {x : Sample} (he : src.toSample unit e = .ok x)
    (hs : Delivered entities unit (Listing reached) n s) :
    (guarded src.recorded .converting (Stream.convert src.recorded e)).EndsIn s fun a t =>
      Delivered entities unit (Listing reached) n t ∧ match a with
        | .ok y => y = x ∧ t.unit.known ≠ none ∧
          t.backing.2.countP Inquiry.isFailedUnit = s.backing.2.countP Inquiry.isFailedUnit
        | .error e => e.isQuery = true ∧ s.unit.known = none ∧ t.unit.known = none ∧
          t.backing.2.countP Inquiry.isFailedUnit =
            s.backing.2.countP Inquiry.isFailedUnit + 1 := by
  obtain ⟨f, hf⟩ := h.convert e
  have hconvert : src.recorded.convert e = .withUnit f := hf
  have hx : f unit = .ok x := by
    unfold Source.toSample at he
    rwa [hf] at he
  unfold Stream.convert
  rw [endsIn_guarded, hconvert, endsIn_bind]
  refine (hs.readUnit_recorded h).mono ?_
  rintro (g | u) t ⟨ht, hu⟩
  · exact ⟨ht, isQuery_report _ _ _, hu⟩
  · obtain ⟨rfl, hu⟩ := hu
    rw [continues_ok, endsIn_lift, hx]
    exact ⟨ht, rfl, hu⟩

/-- **One call for the next sample** gives it, or fails; a failure may have taken the entity. -/
theorem Retried.nextValue
    (hsamples : List.Forall₂ (fun e x => src.toSample unit e = .ok x) entities samples)
    (hs : Retried entities samples unit reached n xs s) :
    (nextValue src.recorded).EndsIn s fun
      | .ok (some x), t => Retried entities samples unit reached (n + 1) (xs ++ [x]) t
      | .ok none, t => Retried entities samples unit reached (n + 1) xs t ∧ samples.length ≤ n
      | .error e, t => e.isQuery = true ∧ ∃ m, n ≤ m ∧
        Retried entities samples unit reached m xs t := by
  obtain ⟨missed, htake, hmissed⟩ := hs.taken
  unfold Stream.nextValue
  rw [endsIn_bind]
  refine (hs.delivered.nextEntity_recorded h).mono ?_
  rintro (f | _ | e) t ⟨ht, hunit, hlog⟩
  · -- Nothing was taken.
    refine ⟨ht.1, n, Nat.le_refl n, ht.2, ⟨missed, htake, hlog ▸ hmissed⟩, ?_⟩
    rw [hunit]
    exact hs.unknown
  · -- Nothing is left.
    obtain ⟨hnone, ht⟩ := ht
    have hlength : samples.length ≤ n := by
      rw [← hsamples.length_eq]
      exact List.getElem?_eq_none_iff.1 hnone.symm
    have htake' : samples.take (n + 1) = missed ++ xs := by
      rw [← htake, List.take_of_length_le hlength, List.take_of_length_le (by omega)]
    have hunknown : t.unit.known = none → xs = [] := by
      rw [hunit]
      exact hs.unknown
    exact ⟨⟨ht, ⟨missed, htake', hlog ▸ hmissed⟩, hunknown⟩, hlength⟩
  · obtain ⟨he, ht⟩ := ht
    obtain ⟨hnone, -⟩ | ⟨e', x, he', hx, hconvert⟩ := getElem?_cases hsamples n
    · cases hnone.symm.trans he.symm
    · cases he'.symm.trans he.symm
      have htake' : samples.take (n + 1) = missed ++ xs ++ [x] := by
        rw [List.take_add_one, hx, htake]
        rfl
      rw [continues_ok, endsIn_bind]
      refine (ht.convert_recorded h hconvert).mono ?_
      rintro (g | y) t' ⟨ht', hu⟩
      · -- The entity is gone; nothing has come so far.
        obtain ⟨hquery, hnone, hnone', hcount⟩ := hu
        have hxs : xs = [] := hs.unknown (hunit ▸ hnone)
        refine ⟨hquery, n + 1, by omega, ht', ⟨missed ++ [x], ?_, ?_⟩, fun _ => hxs⟩
        · rw [htake', hxs, List.append_nil, List.append_nil]
        · rw [List.length_append, hmissed, hcount, hlog]
          rfl
      · obtain ⟨rfl, hknown, hcount⟩ := hu
        have hmissed' : missed.length = t'.backing.2.countP Inquiry.isFailedUnit := by
          rw [hmissed, hcount, hlog]
        rw [List.append_assoc] at htake'
        exact ⟨ht', ⟨missed, htake', hmissed'⟩, fun hnone => absurd hnone hknown⟩

theorem Retried.perform
    (hsamples : List.Forall₂ (fun e x => src.toSample unit e = .ok x) entities samples)
    (transformer : Option (Transformer (σ × List Inquiry)))
    (hs : Retried entities samples unit reached n xs s) :
    (Call.nextValue.perform src.recorded transformer).EndsIn s fun a t => ∃ m, n ≤ m ∧
      Retried entities samples unit reached m (xs ++ (sampleOf a).toList) t ∧
      (∀ e, failureOf a = some e → e.isQuery = true) ∧
      (isEnd a = true → samples.length ≤ m) ∧
      (isEnd a = false → (sampleOf a).toList.length + (failureOf a).toList.length = 1) := by
  unfold Call.perform
  rw [endsIn_bind]
  refine (hs.nextValue h hsamples).mono ?_
  rintro (e | _ | x) t ht
  · obtain ⟨hquery, m, hm, ht⟩ := ht
    refine ⟨m, hm, by simpa [sampleOf] using ht, ?_, nofun, fun _ => rfl⟩
    rintro _ ⟨⟩
    exact hquery
  · obtain ⟨ht, hlength⟩ := ht
    exact ⟨n + 1, by omega, by simpa [sampleOf] using ht, nofun, fun _ => by omega, nofun⟩
  · exact ⟨n + 1, by omega, ht, nofun, nofun, fun _ => rfl⟩

/-! ## Many calls -/

/-- **Calls for the next sample, one after the other.** -/
theorem Retried.run
    (hsamples : List.Forall₂ (fun e x => src.toSample unit e = .ok x) entities samples)
    (transformer : Option (Transformer (σ × List Inquiry))) (k : Nat)
    (hs : Retried entities samples unit reached n xs s) :
    let calls := List.replicate k Call.nextValue
    let answers := (trace src.recorded transformer s calls).map (·.2)
    ∃ m, n ≤ m ∧ Retried entities samples unit reached m (xs ++ answers.filterMap sampleOf)
        (after src.recorded transformer s calls) ∧
      (∀ e ∈ answers.filterMap failureOf, e.isQuery = true) ∧
      (answers.any isEnd = true → samples.length ≤ m) ∧
      (answers.any isEnd = false →
        (answers.filterMap sampleOf).length + (answers.filterMap failureOf).length = k) := by
  induction k generalizing n xs s with
  | zero =>
    refine ⟨n, Nat.le_refl n, ?_, nofun, nofun, fun _ => rfl⟩
    simpa [trace, after] using hs
  | succ k ih =>
    intro calls answers
    obtain ⟨m, hm, ht, hquery, hend, hcount⟩ := hs.perform h hsamples transformer
    obtain ⟨m', hm', ht', hquery', hend', hcount'⟩ := ih ht
    have hanswers : answers = ((Call.nextValue.perform src.recorded transformer).run s).answer ::
        (trace src.recorded transformer
          ((Call.nextValue.perform src.recorded transformer).run s).state
            (List.replicate k Call.nextValue)).map (·.2) := rfl
    rw [hanswers, filterMap_cons_toList, filterMap_cons_toList, List.any_cons]
    refine ⟨m', Nat.le_trans hm hm', ?_, ?_, ?_, ?_⟩
    · rw [← List.append_assoc]
      exact ht'
    · intro e he
      rcases List.mem_append.1 he with he | he
      · exact hquery e (by simpa using he)
      · exact hquery' e he
    · intro hany
      rcases Bool.or_eq_true_iff.1 hany with hany | hany
      · exact Nat.le_trans (hend hany) hm'
      · exact hend' hany
    · intro hany
      obtain ⟨hfirst, hrest⟩ := Bool.or_eq_false_iff.1 hany
      have hone := hcount hfirst
      have hothers := hcount' hrest
      rw [List.length_append, List.length_append]
      omega

end Step

/-- What comes of asking for samples does not depend on the transformer. -/
theorem trace_nextValue (transformer other : Option (Transformer σ)) (s : Stream σ) (k : Nat) :
    trace src transformer s (List.replicate k .nextValue) =
      trace src other s (List.replicate k .nextValue) := by
  induction k generalizing s with
  | zero => rfl
  | succ k ih => exact congrArg (List.cons _) (ih _)

end Stream

end SensorSeries
