import SensorSeries.Proofs.Merge.Folding
import SensorSeries.Proofs.Stream.Progress
import SensorSeries.Series.Column

/-!
# Samples without a value

A sample may come without a value. By itself it has no unit, merging keeps it as it is, and in a
column its content is missing. A stream over samples in memory asks one after the other for a unit
that says something, and a sample without a value cannot be asked. Where it comes to such a sample
first it is `Blocked`: it fails to tell the unit, every time it is asked, and there is no observation
of its samples. Otherwise all is as it would be without such samples (`told_unless_blocked`).
-/

namespace SensorSeries

namespace Stream

open SensorSeries.Action

variable {σ ε : Type} {src : Source σ ε} {s : Stream σ} {P : Stream σ → Prop} {e : Failure}

/-- An observation of all samples begins with the unit, and fails as the unit does. -/
theorem mergeObservation_of_no_unit (transformer : Option (Transformer σ))
    (h : (readUnit src).EndsIn s fun a t => a = .error e ∧ P t) :
    (mergeObservation src transformer).EndsIn s fun a t => a = .error e ∧ P t := by
  unfold mergeObservation
  rw [endsIn_bind, endsIn_get, continues_ok]
  exact h.bind_error

end Stream

namespace SampleList

open SensorSeries.Action

/-- What the reader of a blocked stream is told. -/
def unitFailure (template : Observation) : Failure :=
  .stream (name template) .queryingUnit .noAttribute

variable {samples : List Sample}

/-- All samples are searched for the unit, and the source stays as it is. -/
theorem endsIn_unit (template : Observation) (l : SampleList)
    (Q : Except Failure UnitOfMeasure → SampleList → Prop) :
    (source template).unit.EndsIn l Q ↔ Q (firstUnit l.samples) l := .rfl

section Fresh

variable (template : Observation) (options : List (String × Datum))
  (hvalues : ∀ x ∈ samples, ∀ v ∈ x.value, v.IsVariant)

include hvalues

/-- A fresh stream that is blocked tells no unit, and is as fresh as before. -/
theorem readUnit_of_blocked (h : Blocked samples) :
    let s := stream template samples options
    (Stream.readUnit (source template)).EndsIn s fun a t =>
      a = .error (unitFailure template) ∧ t = s := by
  intro s
  have hsearch : firstUnit s.backing.samples = .error .noAttribute := firstUnit_of_blocked hvalues h
  rw [Stream.endsIn_readUnit]
  refine (endsIn_unit template s.backing _).2 ?_
  rw [hsearch]
  exact ⟨rfl, rfl⟩

theorem readUnit_of_not_blocked (h : ¬ Blocked samples) :
    let s := stream template samples options
    (Stream.readUnit (source template)).EndsIn s fun a t =>
      a = .ok (unitOf samples) ∧ t = { s with unit := .ofValue (unitOf samples) } := by
  intro s
  have hsearch : firstUnit s.backing.samples = .ok (unitOf samples) :=
    firstUnit_of_not_blocked hvalues h
  rw [Stream.endsIn_readUnit]
  refine (endsIn_unit template s.backing _).2 ?_
  rw [hsearch]
  exact ⟨rfl, rfl⟩

/-- The observation of all samples of a fresh stream that is not blocked has their unit and their
hull. Only the options can keep it from being made. -/
theorem mergeObservation_of_not_blocked (transformer : Option (Transformer SampleList))
    {hull : Option Period} (hcovered : Series.IsCovered ⟨unitOf samples, samples⟩ hull)
    (h : ¬ Blocked samples) :
    (Stream.mergeObservation (source template) transformer).EndsIn
      (stream template samples options) fun a _ =>
        (∀ o, a = .ok o →
          o.result = some (.multi (some ⟨unitOf samples, samples⟩) (hull.map .period))) ∧
        ((∀ l, (Reprojection.apply options transformer).EndsIn (l, template.parameters)
          fun r _ => r = .ok ()) → ∃ o, a = .ok o) := by
  obtain ⟨times, htimes, hwithin⟩ := timesOf_eq hcovered
  have hsource : (source template).Delivers samples (unitOf samples) (Reached samples) :=
    source_delivers (firstUnit_of_not_blocked hvalues h)
  have hsamples : List.Forall₂ (fun x y => (source template).toSample (unitOf samples) x = .ok y)
      samples samples := List.forall₂_same.2 fun _ _ => rfl
  have htold {n : Nat} {l : SampleList} (hl : Reached samples n l) :
      (source template).times.EndsIn l fun a _ => a = .ok times := by
    obtain rfl := hl
    exact htimes
  have huntold : ∀ known ∈ (stream template samples options).times.known, known = times := by
    rintro known ⟨⟩
  have hstart : Stream.Delivered samples (unitOf samples) (Reached samples) 0
      (stream template samples options) := .start (by rw [Reached, Nat.zero_min]) template options
  have hrest := hstart.mergeObservation_rest transformer hsource hsamples htold pending_of_reached
    huntold
  rw [hwithin, List.drop_zero] at hrest
  exact hrest

end Fresh

/-- **When a sample without a value keeps the unit away.** A fresh stream over samples, each with a
value of one of the kinds of values or with none, tells the first unit that says something, and no unit
if there is none. It fails if it is blocked, and then it is left as it was. The same goes for an
observation of all samples of a series that results at comparable times were folded into: if the stream
is blocked there is none, and otherwise it has the samples under that unit and the time of the series,
and is made if the options go through. -/
theorem told_unless_blocked (template : Observation) (options : List (String × Datum))
    (transformer : Option (Transformer SampleList)) :
    (∀ samples : List Sample, (∀ x ∈ samples, ∀ v ∈ x.value, v.IsVariant) →
      let s := stream template samples options
      (Stream.readUnit (source template)).EndsIn s fun a t =>
        (Blocked samples → a = .error (unitFailure template) ∧ t = s) ∧
        (¬ Blocked samples →
          a = .ok (unitOf samples) ∧ t = { s with unit := .ofValue (unitOf samples) })) ∧
    ∀ (a b : Option Result) (rs : List (Option Result)),
      (∀ r ∈ a :: b :: rs, ∀ x ∈ r, x.IsPlain) →
      let samples := (a :: b :: rs).flatMap fun r => (Result.contribution r).samples
      (∀ x ∈ samples, ∀ v ∈ x.value, v.IsVariant) → (∀ x ∈ samples, Time.IsProper x.time) →
      Time.Comparable (samples.map (·.time)) →
      ∃ series hull, Result.foldMerge a (b :: rs) = .ok (some (.ofSeries series)) ∧
        series.samples = samples ∧ series.IsCovered hull ∧
        let s := stream template series.samples options
        (Stream.mergeObservation (source template) transformer).EndsIn s fun r t =>
          (Blocked samples → r = .error (unitFailure template) ∧ t = s) ∧
          (¬ Blocked samples →
            (∀ o, r = .ok o → o.result =
              some (.multi (some ⟨unitOf samples, samples⟩) (hull.map .period))) ∧
            ((∀ l, (Reprojection.apply options transformer).EndsIn (l, template.parameters)
              fun r _ => r = .ok ()) → ∃ o, r = .ok o)) := by
  constructor
  · intro samples hvalues s
    exact (endsIn_imp.2 fun hblocked => readUnit_of_blocked template options hvalues hblocked).and
      (endsIn_imp.2 fun hopen => readUnit_of_not_blocked template options hvalues hopen)
  · intro a b rs hplain samples hvalues hproper hcomparable
    obtain ⟨⟨unit, _⟩, hfold, rfl⟩ := Result.exists_foldMerge hplain
    obtain ⟨hull, hcovered⟩ := Series.exists_isCovered (s := ⟨unit, samples⟩) hproper hcomparable
    refine ⟨⟨unit, samples⟩, hull, hfold, rfl, hcovered, ?_⟩
    refine EndsIn.and (endsIn_imp.2 fun hblocked => ?_) (endsIn_imp.2 fun hopen => ?_)
    · have hunit := readUnit_of_blocked template options hvalues hblocked
      exact Stream.mergeObservation_of_no_unit transformer hunit
    · -- The time of a series has nothing to do with its unit.
      have hcovered' : Series.IsCovered ⟨unitOf samples, samples⟩ hull :=
        ⟨hcovered.time, hcovered.none_iff, hcovered.hull⟩
      exact mergeObservation_of_not_blocked template options hvalues transformer hcovered' hopen

/-- A measured sample and one without a value are folded into one series, and a stream over it goes
through. A stream over the two the other way round does not, and knows no unit afterwards. -/
theorem told_unless_blocked_turned :
    let clock (n : Int) : Option Time :=
      some (.instant (.ofTimestamp (some { shown := n, offset := none })))
    let measured : Sample := ⟨clock 0, some (.quantity (.int 1) (.ofText "m"))⟩
    let valueless : Sample := ⟨clock 1, none⟩
    (∃ series time, Result.foldMerge (some (.single measured)) [some (.single valueless)] =
        .ok (some (.ofSeries series)) ∧
      (Stream.mergeObservation (source {}) none).EndsIn (stream {} series.samples []) fun a _ =>
        ∃ o, a = .ok o ∧
          o.result = some (.multi (some ⟨.ofText "m", [measured, valueless]⟩) time)) ∧
    (Stream.readUnit (source {})).EndsIn (stream {} [valueless, measured] []) fun a t =>
      a = .error (unitFailure {}) ∧ t.unit.isKnown = false := by
  intro clock measured valueless
  obtain ⟨hunit, hmerged⟩ := told_unless_blocked {} [] none
  constructor
  · have hplain : ∀ r ∈ [some (Result.single measured), some (.single valueless)], ∀ x ∈ r,
        x.IsPlain := by
      simp [Result.IsPlain, measured, valueless, Value.quantity, Value.IsVariant]
    have hvalues : ∀ x ∈ [measured, valueless], ∀ v ∈ x.value, v.IsVariant := by
      simp [measured, valueless, Value.quantity, Value.IsVariant]
    have hproper : ∀ x ∈ [measured, valueless], Time.IsProper x.time := by
      simp [measured, valueless, clock, Time.IsProper]
    have hcomparable : Time.Comparable ([measured, valueless].map (·.time)) := by
      unfold Time.Comparable
      decide
    have hopen : ¬ Blocked [measured, valueless] := by
      rw [blocked_cons_iff]
      rintro (hnone | ⟨hunfilled, -⟩)
      · cases hnone
      · cases hunfilled
    obtain ⟨series, hull, hfold, -, -, hobservation⟩ :=
      hmerged _ _ [] hplain hvalues hproper hcomparable
    refine ⟨series, hull.map .period, hfold, hobservation.mono ?_⟩
    rintro a t ⟨-, h⟩
    obtain ⟨hresult, hmade⟩ := h hopen
    obtain ⟨o, ho⟩ := hmade fun l => rfl
    exact ⟨o, ho, hresult o ho⟩
  · have hvalues : ∀ x ∈ [valueless, measured], ∀ v ∈ x.value, v.IsVariant := by
      simp [measured, valueless, Value.quantity, Value.IsVariant]
    have hblocked : Blocked [valueless, measured] :=
      ⟨[], valueless, [measured], rfl, rfl, List.forall_mem_nil _⟩
    refine (hunit [valueless, measured] hvalues).mono ?_
    rintro a t ⟨h, -⟩
    obtain ⟨ha, rfl⟩ := h hblocked
    exact ⟨ha, rfl⟩

/-- A sample without a value stands before one with a unit. By itself it has no unit; the two are
merged into a series under the unit of the other, and make a column. But a stream over them fails to
tell that unit, and there is no observation of them. -/
theorem unit_behind_missing_value :
    let clock (n : Int) : Option Time :=
      some (.instant (.ofTimestamp (some { shown := n, offset := none })))
    let valueless : Sample := ⟨clock 0, none⟩
    let measured : Sample := ⟨clock 1, some (.quantity (.int 1) (.ofText "m"))⟩
    let series : Series := ⟨.ofText "m", [valueless, measured]⟩
    let s := stream {} series.samples []
    (Result.single valueless).unit = .ok .missing ∧
    Series.merge (some (.single valueless)) (some (.single measured)) = .ok series ∧
    (∃ column, series.toColumn .timeIndex = .ok column) ∧ unitOf series.samples = series.unit ∧
    (Stream.readUnit (source {})).EndsIn s (fun a _ => a = .error (unitFailure {})) ∧
    (Stream.mergeObservation (source {}) none).EndsIn s fun a _ => a = .error (unitFailure {}) :=
  ⟨rfl, rfl, ⟨_, rfl⟩, rfl, rfl, rfl⟩

end SampleList

end SensorSeries
