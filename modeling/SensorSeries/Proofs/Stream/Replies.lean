import SensorSeries.Proofs.Stream.Uses

/-!
# Replies of a stream

What a call answers, it answers from what the stream knows of the whole when the call is over: the
unit, the times, and samples that were made with that unit (`Call.Tells`). For what a stream knows it
keeps, whatever it is asked for, as long as no other unit is assigned (`Knows`).
-/

namespace SensorSeries

variable {σ ε : Type}

/-- A sample is made of an entity of the source, with this unit if a unit is needed. -/
def Source.Makes (src : Source σ ε) (unit : Option UnitOfMeasure) (x : Sample) : Prop :=
  ∃ e, match src.convert e with
    | .done a => a = .ok x
    | .withUnit f => ∃ u, unit = some u ∧ f u = .ok x

theorem Source.Makes.mono {src : Source σ ε} {unit unit' : Option UnitOfMeasure} {x : Sample}
    (h : src.Makes unit x) (hunit : ∀ u, unit = some u → unit' = some u) : src.Makes unit' x := by
  obtain ⟨e, he⟩ := h
  refine ⟨e, ?_⟩
  split at he
  · exact he
  · obtain ⟨u, hu, hx⟩ := he
    exact ⟨u, hunit u hu, hx⟩

namespace Stream

open SensorSeries.Action

variable {src : Source σ ε} {transformer : Option (Transformer σ)} {s t : Stream σ}
  {unit : Option UnitOfMeasure} {times : Option (Option Times)}

/-! ## What is known stays known -/

/-- A stream knows this unit and these times, as far as they are told. -/
structure Knows (unit : Option UnitOfMeasure) (times : Option (Option Times)) (s : Stream σ) :
    Prop where
  unit : ∀ u, unit = some u → s.unit.known = some u
  times : ∀ t, times = some t → s.times.known = some t

namespace Knows

theorem self (s : Stream σ) : Knows s.unit.known s.times.known s := ⟨fun _ h => h, fun _ h => h⟩

theorem nextEntity (hs : Knows unit times s) :
    (nextEntity src).EndsIn s fun _ s => Knows unit times s := by
  refine (nextEntity_frame (P := fun _ => True) src s (.of_forall _ _ fun _ _ => trivial)
    trivial).mono ?_
  rintro _ _ ⟨b, exhausted, rfl, -⟩
  exact ⟨hs.unit, hs.times⟩

theorem readUnit (hs : Knows unit times s) :
    (readUnit src).EndsIn s fun a s =>
      Knows unit times s ∧ ∀ u, a = .ok u → s.unit.known = some u := by
  rw [endsIn_readUnit]
  split
  · next v hv =>
    refine ⟨hs, ?_⟩
    rintro _ ⟨⟩
    exact hv
  · next hnone =>
    refine EndsIn.of_forall src.unit s.backing ?_
    rintro (e | v) b
    · refine ⟨⟨hs.unit, hs.times⟩, ?_⟩
      rintro _ ⟨⟩
    · refine ⟨⟨fun u hu => ?_, hs.times⟩, ?_⟩
      · cases hnone.symm.trans (hs.unit u hu)
      · rintro _ ⟨⟩
        rfl

theorem readTimes (hs : Knows unit times s) :
    (readTimes src).EndsIn s fun a s =>
      Knows unit times s ∧ ∀ t, a = .ok t → ∃ known, s.times.known = some known ∧
        t = known.getD {} := by
  rw [endsIn_readTimes]
  split
  · next known hknown =>
    refine ⟨hs, ?_⟩
    rintro _ ⟨⟩
    exact ⟨known, hknown, rfl⟩
  · next hnone =>
    refine EndsIn.of_forall src.times s.backing ?_
    rintro (e | known) b
    · refine ⟨⟨hs.unit, hs.times⟩, ?_⟩
      rintro _ ⟨⟩
    · refine ⟨⟨hs.unit, fun t ht => ?_⟩, ?_⟩
      · cases hnone.symm.trans (hs.times t ht)
      · rintro _ ⟨⟩
        exact ⟨known, rfl, rfl⟩

theorem modified (ps : ParameterSet) (hs : Knows unit times s) :
    (modified transformer ps).EndsIn s fun _ s => Knows unit times s :=
  ⟨hs.unit, hs.times⟩

theorem keeps : Keeps src fun _ => Knows unit times where
  nextEntity hs := hs.nextEntity
  readUnit hs := hs.readUnit.mono fun _ _ ht => ht.1
  fail _ hs := hs
  report _ hs := hs

end Knows

/-! ## Samples -/

theorem endsIn_convert_makes (e : ε) :
    (convert src e).EndsIn s fun a t => ∀ x, a = .ok x → src.Makes t.unit.known x := by
  unfold convert
  cases he : src.convert e with
  | done a =>
    intro x hx
    refine ⟨e, ?_⟩
    rw [he]
    exact hx
  | withUnit f =>
    refine ((Knows.self s).readUnit.mono fun _ _ ht => ht.2).bind_answer ?_
    intro u t hu x hx
    refine ⟨e, ?_⟩
    rw [he]
    exact ⟨u, hu, hx⟩

theorem endsIn_nextValue_makes :
    (nextValue src).EndsIn s fun a t => ∀ r, a = .ok r → ∀ x, r = some x →
      src.Makes t.unit.known x := by
  refine EndsIn.bind_answer (P := fun _ _ => True) (EndsIn.of_forall _ _ fun _ _ _ _ => trivial) ?_
  rintro (_ | e) t -
  · rintro _ ⟨⟩ _ ⟨⟩
  · have hguarded : (guarded src .converting (convert src e)).EndsIn t fun a t =>
        ∀ x, a = .ok x → src.Makes t.unit.known x := by
      rw [endsIn_guarded]
      refine (endsIn_convert_makes e).mono ?_
      rintro (f | x) t ht
      · rintro _ ⟨⟩
      · exact ht
    refine hguarded.bind_answer fun x t hx => ?_
    rintro _ ⟨⟩ _ ⟨⟩
    exact hx

/-- All samples of a batch are made with the unit that is known in the end. -/
theorem endsIn_take_makes (n : Nat) :
    (take src n).EndsIn s fun a t => ∀ xs, a = .ok xs → ∀ x ∈ xs, src.Makes t.unit.known x := by
  induction n generalizing s with
  | zero =>
    rintro _ ⟨⟩ x hx
    cases hx
  | succ n ih =>
    refine endsIn_nextValue_makes.bind_answer ?_
    rintro (_ | x) t hx
    · rintro _ ⟨⟩ y hy
      cases hy
    · have hkept : (take src n).EndsIn t fun _ t' => Knows t.unit.known t.times.known t' :=
        Knows.keeps.take n (.self t)
      have hrest : (take src n).EndsIn t fun a t' => ∀ xs, a = .ok xs →
          ∀ y ∈ x :: xs, src.Makes t'.unit.known y := by
        refine (ih.and hkept).mono ?_
        rintro a t' ⟨hxs, ht'⟩ xs rfl
        have hfirst : src.Makes t'.unit.known x := (hx x rfl).mono ht'.unit
        exact List.forall_mem_cons.2 ⟨hfirst, hxs xs rfl⟩
      refine hrest.bind_answer fun xs t' hxs => ?_
      rintro _ ⟨⟩
      exact hxs

/-! ## Calls -/

/-- What a call answers, from the unit and the times that are known when it is over. -/
def Call.Tells (src : Source σ ε) (unit : Option UnitOfMeasure) (times : Option (Option Times)) :
    Call → Reply ε → Prop
  | .unit, .unit u => unit = some u
  | .isSetUnit, .flag b => ∃ u, unit = some u ∧ b = !u.isMissing
  | .times, .times t => ∃ known, times = some known ∧ t = known.getD {}
  | .isSetPhenomenonTime, .flag b => ∃ known : Option Times, times = some known ∧
    Time.isSetOption (known.getD {}).phenomenon = .ok b
  | .isSetResultTime, .flag b => ∃ known : Option Times, times = some known ∧
    b = (known.getD {}).result.any (·.isSet)
  | .isSetValidTime, .flag b => ∃ known : Option Times, times = some known ∧
    Time.isSetOption (known.getD {}).valid = .ok b
  | .nextValue, .sample r => ∀ x, r = some x → src.Makes unit x
  | .drain, .samples xs => ∀ x ∈ xs, src.Makes unit x
  | .mergeObservation, .observation o => ∃ (u : UnitOfMeasure) (known : Option Times)
    (xs : List Sample), unit = some u ∧ times = some known ∧ (∀ x ∈ xs, src.Makes unit x) ∧
      o.result = some (.multi (some ⟨u, xs⟩) (known.getD {}).phenomenon) ∧
      (∀ i, (known.getD {}).result = some i → o.resultTime = some i) ∧
      ∀ v, (known.getD {}).valid = some v → o.validTime = some v
  | .nextEntity, .entity _ | .setUnit _, .done | .close, .done => True
  | _, _ => False

theorem endsIn_mergeObservation_tells :
    (mergeObservation src transformer).EndsIn s fun a t => ∀ o, a = .ok o →
      Call.Tells src t.unit.known t.times.known .mergeObservation (.observation o) := by
  unfold mergeObservation
  rw [endsIn_bind, endsIn_get, continues_ok]
  refine ((Knows.self s).readUnit.mono fun _ _ ht => ht.2).bind_answer fun u t hu => ?_
  have hdrain : (drain src).EndsIn t fun a t' => ∀ xs, a = .ok xs →
      t'.unit.known = some u ∧ ∀ x ∈ xs, src.Makes (some u) x := by
    have hkept : (drain src).EndsIn t fun _ t' => Knows t.unit.known t.times.known t' :=
      Knows.keeps.drain (.self t)
    have hmakes : (drain src).EndsIn t fun a t' => ∀ xs, a = .ok xs → ∀ x ∈ xs,
        src.Makes t'.unit.known x := endsIn_take_makes _
    refine (hkept.and hmakes).mono ?_
    rintro a t' ⟨ht', hxs⟩ xs ha
    have hu' := ht'.unit u hu
    rw [hu'] at hxs
    exact ⟨hu', hxs xs ha⟩
  refine hdrain.bind_answer fun xs t ⟨hu, hxs⟩ => ?_
  have htimes : (readTimes src).EndsIn t fun a t' => ∀ r, a = .ok r →
      ∃ known, t'.unit.known = some u ∧ t'.times.known = some known ∧ r = known.getD {} := by
    refine (Knows.self t).readTimes.mono ?_
    rintro a t' ⟨ht', hr⟩ r ha
    obtain ⟨known, hknown, hr⟩ := hr r ha
    exact ⟨known, ht'.unit u hu, hknown, hr⟩
  refine htimes.bind_answer ?_
  rintro _ t ⟨known, hu, hknown, rfl⟩
  rw [endsIn_bind]
  refine (Knows.modified _ (.self t)).mono ?_
  rintro (e | ⟨a, ps⟩) t' ht'
  · rintro _ ⟨⟩
  · cases a with
    | error e => rintro _ ⟨⟩
    | ok a =>
      rintro _ ⟨⟩
      have hu' := ht'.unit u hu
      have hmakes : ∀ x ∈ xs, src.Makes t'.unit.known x := by
        rw [hu']
        exact hxs
      refine ⟨u, known, xs, hu', ht'.times known hknown, hmakes, rfl, ?_, ?_⟩
      · intro i hi
        simp [hi]
      · intro v hv
        simp [hv]

/-- **What a call answers** is what the stream knows. -/
theorem Call.perform_tells (c : Call) :
    (c.perform src transformer).EndsIn s fun a t => ∀ r, a = .ok r →
      c.Tells src t.unit.known t.times.known r := by
  have hunit : (Stream.readUnit src).EndsIn s fun a t => ∀ u, a = .ok u → t.unit.known = some u :=
    (Knows.self s).readUnit.mono fun _ _ ht => ht.2
  have htimes : (Stream.readTimes src).EndsIn s fun a t => ∀ r, a = .ok r →
      ∃ known, t.times.known = some known ∧ r = known.getD {} :=
    (Knows.self s).readTimes.mono fun _ _ ht => ht.2
  cases c with
  | unit =>
    exact hunit.map_answer fun _ _ hu => hu
  | isSetUnit =>
    have hflag : (Stream.isSetUnit src).EndsIn s fun a t => ∀ b, a = .ok b →
        ∃ u, t.unit.known = some u ∧ b = !u.isMissing :=
      hunit.map_answer fun u _ hu => ⟨u, hu, rfl⟩
    exact hflag.map_answer fun _ _ hb => hb
  | times =>
    exact htimes.map_answer fun _ _ hr => hr
  | isSetPhenomenonTime =>
    have hflag : (Stream.isSetPhenomenonTime src).EndsIn s fun a t => ∀ b, a = .ok b →
        ∃ known : Option Times, t.times.known = some known ∧
          Time.isSetOption (known.getD {}).phenomenon = .ok b := by
      refine htimes.bind_answer ?_
      rintro _ t ⟨known, hknown, rfl⟩ b hb
      exact ⟨known, hknown, hb⟩
    exact hflag.map_answer fun _ _ hb => hb
  | isSetResultTime =>
    have hflag : (Stream.isSetResultTime src).EndsIn s fun a t => ∀ b, a = .ok b →
        ∃ known : Option Times, t.times.known = some known ∧
          b = (known.getD {}).result.any (·.isSet) := by
      refine htimes.map_answer ?_
      rintro _ t ⟨known, hknown, rfl⟩
      exact ⟨known, hknown, rfl⟩
    exact hflag.map_answer fun _ _ hb => hb
  | isSetValidTime =>
    have hflag : (Stream.isSetValidTime src).EndsIn s fun a t => ∀ b, a = .ok b →
        ∃ known : Option Times, t.times.known = some known ∧
          Time.isSetOption (known.getD {}).valid = .ok b := by
      refine htimes.bind_answer ?_
      rintro _ t ⟨known, hknown, rfl⟩ b hb
      exact ⟨known, hknown, hb⟩
    exact hflag.map_answer fun _ _ hb => hb
  | nextValue =>
    exact endsIn_nextValue_makes.map_answer fun _ _ hr => hr
  | drain =>
    have hdrain : (Stream.drain src).EndsIn s fun a t => ∀ xs, a = .ok xs → ∀ x ∈ xs,
        src.Makes t.unit.known x := endsIn_take_makes _
    exact hdrain.map_answer fun _ _ hxs => hxs
  | mergeObservation =>
    exact endsIn_mergeObservation_tells.map_answer fun _ _ ho => ho
  | nextEntity | close =>
    refine EndsIn.map_answer (P := fun _ _ => True) (EndsIn.of_forall _ _ ?_) fun _ _ h => h
    exact fun _ _ _ _ => trivial
  | setUnit u =>
    rintro _ ⟨⟩
    trivial

end Stream

end SensorSeries
