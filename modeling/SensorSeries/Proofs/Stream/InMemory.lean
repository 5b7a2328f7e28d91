import SensorSeries.Proofs.Merge.Contribution
import SensorSeries.Proofs.Stream.Delivery
import SensorSeries.Proofs.Stream.Uses
import SensorSeries.Proofs.Time.Covering
import SensorSeries.Stream.InMemory

/-!
# Streams over samples in memory

There are two ways to make a series of a list of samples: to merge them into an empty one, sample by
sample, and to stream them and take the observation of them all. Both give the same series, and the
time that the stream is told is the time that the series has by itself (`mergeObservation_eq_merge`).
The stream looks for the first unit that says something, merging takes over the unit of each sample
unless it has one; `exists_firstUnit` says that this is the same unit.
-/

namespace SensorSeries

/-- A sample with a value of one of the kinds of values, and not the placeholder of a template. -/
def Sample.HasValue (x : Sample) : Prop :=
  ∃ v, x.value = some v ∧ v.IsVariant ∧ v.isNil = false

/-! ## Sample by sample -/

/-- Merges samples into a result, one after the other. -/
def Result.mergeSamples (r : Result) (samples : List Sample) : Except Failure Result :=
  samples.foldlM (fun r x => do return .ofSeries (← Series.merge (some r) (some (.single x)))) r

namespace Series

/-- A unit that says nothing makes no difference. -/
theorem combine_of_not_filled (s : Series) {u v : UnitOfMeasure} (hu : u.isFilled = false)
    (hv : v.isFilled = false) (xs : List Sample) : s.combine ⟨u, xs⟩ = s.combine ⟨v, xs⟩ := by
  simp [combine, isSetUnit, hu, hv]

theorem merge_single (s : Series) {x : Sample} {v : Value} {u : UnitOfMeasure}
    (hx : x.value = some v) (hv : v.IsVariant) (hnil : v.isNil = false) (hu : v.unit = .ok u) :
    Series.merge (some (.ofSeries s)) (some (.single x)) = .ok (s.combine ⟨u, [x]⟩) := by
  have hplain : (Result.single x).IsPlain := by
    intro w hw
    cases hx.symm.trans hw
    exact hv
  have hunit : Result.sampleUnit x.value = u := by
    have h := Result.unit_single hplain
    rcases x with ⟨t, w⟩
    cases hx
    cases h.symm.trans hu
    rfl
  have hmerge : Series.merge (some (.ofSeries s)) (some (.single x)) =
      .ok ((Result.contribution (some (.ofSeries s))).combine
        (Result.contribution (some (.single x)))) := by
    refine merge_eq_ok ?_ ?_
    · rintro _ ⟨⟩
      trivial
    · rintro _ ⟨⟩
      exact hplain
  have hsample : Result.contribution (some (.single x)) = ⟨u, [x]⟩ := by
    rw [Result.contribution, hunit, hx]
    simp [hnil]
  rw [hmerge, hsample]
  rfl

end Series

namespace SampleList

open SensorSeries.Action

/-- **The first unit that says something** is the one that merging takes over. -/
theorem exists_firstUnit {samples : List Sample} (h : ∀ x ∈ samples, x.HasValue) :
    ∃ u, firstUnit samples = .ok u ∧ (u.isFilled = true ∨ u = .missing) ∧
      ∀ s : Series, (Result.ofSeries s).mergeSamples samples =
        .ok (.ofSeries (s.combine ⟨u, samples⟩)) := by
  induction samples with
  | nil =>
    refine ⟨.missing, rfl, .inr rfl, fun s => ?_⟩
    rw [show (⟨.missing, []⟩ : Series) = .empty from rfl, Series.combine_empty]
    rfl
  | cons x xs ih =>
    -- Merging is followed from any series, since it goes on from the one that the first sample left.
    obtain ⟨⟨v, hx, hv, hnil⟩, hxs⟩ := List.forall_mem_cons.1 h
    obtain ⟨u', hfirst, hu', hmerge⟩ := ih hxs
    obtain ⟨u, hu⟩ : ∃ u, v.unit = .ok u := by
      cases v with
      | other d => exact hv.elim
      | _ => exact ⟨_, rfl⟩
    have hstep (s : Series) : (Result.ofSeries s).mergeSamples (x :: xs) =
        .ok (.ofSeries (s.combine (Series.combine ⟨u, [x]⟩ ⟨u', xs⟩))) := by
      rw [Result.mergeSamples, List.foldlM_cons, s.merge_single hx hv hnil hu, ok_bind, pure_eq_ok,
        ok_bind, ← Series.combine_assoc]
      exact hmerge _
    by_cases hfilled : u.isFilled = true
    · refine ⟨u, by simp [firstUnit, hx, hu, hfilled], .inl hfilled, fun s => ?_⟩
      rw [hstep]
      simp [Series.combine, Series.isSetUnit, hfilled]
    · refine ⟨u', by simp [firstUnit, hx, hu, hfilled, hfirst], hu', fun s => ?_⟩
      have hnot : u.isFilled = false := by simpa using hfilled
      have hrest : Series.combine ⟨u, [x]⟩ ⟨u', xs⟩ =
          ⟨if u'.isFilled then u' else u, x :: xs⟩ := by
        simp [Series.combine, Series.isSetUnit, hnot]
      rw [hstep, hrest]
      cases hfilled' : u'.isFilled with
      | true => rfl
      | false => rw [if_neg Bool.false_ne_true, s.combine_of_not_filled hnot hfilled']

end SampleList

/-! ## All that a stream delivers -/

namespace Stream

open SensorSeries.Action

variable {σ ε : Type} {src : Source σ ε} {transformer : Option (Transformer σ)} {entities : List ε}
  {samples : List Sample} {unit : UnitOfMeasure} {reached : Nat → σ → Prop} {n : Nat}
  {s : Stream σ} {options : List (String × Datum)}

/-- Samples are made without the times and the options of a stream. -/
theorem keeps_times_options (times : Memo (Option Times)) (options : List (String × Datum)) :
    Keeps src fun _ s => s.times = times ∧ s.options = options :=
  .of_unaffected fun _ _ _ _ hs => hs

/-- An observation that is made of modified parameters fails as the options do, and is what it is with
any parameters if they go through. -/
theorem endsIn_modified_bind {make : Except Failure Unit × ParameterSet → Action (Stream σ) Observation}
    {P : Observation → Prop} (hfail : ∀ e ps t, (make (.error e, ps)).EndsIn t fun a _ => a = .error e)
    (hmake : ∀ ps t, (make (.ok (), ps)).EndsIn t fun a _ => ∃ o, a = .ok o ∧ P o)
    (ps : ParameterSet) :
    (modified transformer ps >>= make).EndsIn s fun a _ =>
      (∀ o, a = .ok o → P o) ∧
      ((∀ b, (Reprojection.apply s.options transformer).EndsIn (b, ps) fun r _ => r = .ok ()) →
        ∃ o, a = .ok o) := by
  let Through (r : Except Failure Unit) : Prop := r = .ok ()
  have hself : (Reprojection.apply s.options transformer).EndsIn (s.backing, ps) fun r _ =>
      (∀ b, (Reprojection.apply s.options transformer).EndsIn (b, ps) fun r _ => Through r) →
        Through r := fun h => h s.backing
  rw [endsIn_bind, endsIn_modified]
  refine hself.mono fun r y hr => ?_
  rw [continues_ok]
  cases r with
  | error e =>
    refine (hfail e y.2 _).mono ?_
    rintro _ - rfl
    refine ⟨?_, fun h => ?_⟩
    · intro o ho
      cases ho
    · have hthrough := hr h
      cases hthrough
  | ok _ =>
    refine (hmake y.2 _).mono ?_
    rintro _ - ⟨o, rfl, ho⟩
    exact ⟨forall_eq_ok_iff.2 ho, fun _ => ⟨o, rfl⟩⟩

/-- A stream that is asked for all that may be left gives all that is left. -/
theorem Delivered.drain (h : src.Delivers entities unit reached)
    (hsamples : List.Forall₂ (fun e x => src.toSample unit e = .ok x) entities samples)
    (hpending : ∀ {n b}, reached n b → entities.length ≤ n + src.pending b)
    (hs : Delivered entities unit reached n s) :
    (Stream.drain src).EndsIn s fun a t =>
      a = .ok (samples.drop n) ∧ ∃ m, Delivered entities unit reached m t := by
  have hlength : (samples.drop n).length ≤ src.pending s.backing + 1 := by
    have hbound := hpending hs.reached
    rw [hsamples.length_eq] at hbound
    rw [List.length_drop]
    omega
  rw [Stream.drain, endsIn_bind, Action.endsIn_get, continues_ok]
  have htake := hs.take h hsamples (src.pending s.backing + 1)
  rwa [List.take_of_length_le hlength] at htake

/-- **The observation of the samples that are left**, from a source that delivers samples and tells
the times of them all. Only the options can keep it from being made. -/
theorem Delivered.mergeObservation_rest (transformer : Option (Transformer σ)) {times : Option Times}
    (h : src.Delivers entities unit reached)
    (hsamples : List.Forall₂ (fun e x => src.toSample unit e = .ok x) entities samples)
    (htimes : ∀ {n b}, reached n b → src.times.EndsIn b fun a _ => a = .ok times)
    (hpending : ∀ {n b}, reached n b → entities.length ≤ n + src.pending b)
    (hs : Delivered entities unit reached n s) (hknown : ∀ known ∈ s.times.known, known = times) :
    (mergeObservation src transformer).EndsIn s fun a _ =>
      (∀ o, a = .ok o → o.result =
        some (.multi (some ⟨unit, samples.drop n⟩) (times.getD {}).phenomenon)) ∧
      ((∀ b, (Reprojection.apply s.options transformer).EndsIn (b, s.template.parameters)
        fun r _ => r = .ok ()) → ∃ o, a = .ok o) := by
  let Untold (t : Stream σ) : Prop := t.times = s.times ∧ t.options = s.options
  have hkeeps : Keeps src fun _ => Untold := keeps_times_options s.times s.options
  have hunit : (Stream.readUnit src).EndsIn s fun a t =>
      a = .ok unit ∧ Delivered entities unit reached n t ∧ Untold t := by
    have huntold : (Stream.readUnit src).EndsIn s fun _ t => Untold t := hkeeps.readUnit ⟨rfl, rfl⟩
    refine ((hs.readUnit h).and huntold).mono ?_
    rintro a t ⟨⟨ha, ht⟩, huntold⟩
    exact ⟨ha, ht, huntold⟩
  have hdrain (t : Stream σ) (ht : Delivered entities unit reached n t) (huntold : Untold t) :
      (Stream.drain src).EndsIn t fun a t =>
        a = .ok (samples.drop n) ∧ (∃ m, Delivered entities unit reached m t) ∧ Untold t := by
    have hkept : (Stream.drain src).EndsIn t fun _ t => Untold t := hkeeps.drain huntold
    refine ((ht.drain h hsamples hpending).and hkept).mono ?_
    rintro a t ⟨⟨ha, ht⟩, huntold⟩
    exact ⟨ha, ht, huntold⟩
  unfold Stream.mergeObservation
  rw [endsIn_bind, Action.endsIn_get, continues_ok]
  refine hunit.bind_ok fun t ⟨ht, huntold⟩ => ?_
  refine (hdrain t ht huntold).bind_ok ?_
  rintro t ⟨⟨m, ht⟩, htimes', hoptions'⟩
  have hread : (Stream.readTimes src).EndsIn t fun a t =>
      a = .ok (times.getD {}) ∧ t.options = s.options := by
    rw [endsIn_readTimes, htimes']
    cases hs' : s.times.known with
    | some known =>
      obtain rfl := hknown known hs'
      exact ⟨rfl, hoptions'⟩
    | none =>
      refine (htimes ht.reached).mono ?_
      rintro _ b rfl
      exact ⟨rfl, hoptions'⟩
  refine hread.bind_ok fun t ht => ?_
  rw [← ht]
  refine endsIn_modified_bind ?_ ?_ s.template.parameters
  · exact fun e ps t => rfl
  · exact fun ps t => ⟨_, rfl, rfl⟩

/-- The observation of all samples is made if no reference system is asked for. -/
theorem Delivered.mergeObservation_result {times : Option Times} (h : src.Delivers entities unit reached)
    (hsamples : List.Forall₂ (fun e x => src.toSample unit e = .ok x) entities samples)
    (htimes : ∀ {n b}, reached n b → src.times.EndsIn b fun a _ => a = .ok times)
    (hpending : ∀ {n b}, reached n b → entities.length ≤ n + src.pending b)
    (hs : Delivered entities unit reached 0 s) (hknown : s.times.known = none) :
    (mergeObservation src transformer).EndsIn s fun a _ =>
      (∀ o, a = .ok o →
        o.result = some (.multi (some ⟨unit, samples⟩) (times.getD {}).phenomenon)) ∧
      (Datum.field? s.options Vocabulary.crs = none → ∃ o, a = .ok o) := by
  have hnone : ∀ known ∈ s.times.known, known = times := by simp [hknown]
  refine (hs.mergeObservation_rest transformer h hsamples htimes hpending hnone).mono ?_
  rintro a - ⟨hresult, hmade⟩
  refine ⟨hresult, fun hoptions => hmade fun b => ?_⟩
  rw [apply_of_no_crs hoptions, endsIn_pure]

theorem Delivered.mergeObservation {times : Option Times} (h : src.Delivers entities unit reached)
    (hsamples : List.Forall₂ (fun e x => src.toSample unit e = .ok x) entities samples)
    (htimes : ∀ {n b}, reached n b → src.times.EndsIn b fun a _ => a = .ok times)
    (hpending : ∀ {n b}, reached n b → entities.length ≤ n + src.pending b)
    (hs : Delivered entities unit reached 0 s) (hknown : s.times.known = none)
    (hoptions : Datum.field? s.options Vocabulary.crs = none) :
    (mergeObservation src transformer).EndsIn s fun a _ => ∃ o, a = .ok o ∧
      o.result = some (.multi (some ⟨unit, samples⟩) (times.getD {}).phenomenon) := by
  refine (hs.mergeObservation_result h hsamples htimes hpending hknown).mono ?_
  rintro a - ⟨hresult, hmade⟩
  obtain ⟨o, ho⟩ := hmade hoptions
  exact ⟨o, ho, hresult o ho⟩

end Stream

namespace SampleList

open SensorSeries.Action

/-! ## Samples in memory -/

/-- A list of which so many samples have been asked for. -/
def Reached (samples : List Sample) (n : Nat) (l : SampleList) : Prop :=
  l = ⟨samples, min n samples.length⟩

variable {samples : List Sample} {unit : UnitOfMeasure} {template : Observation}

theorem source_delivers (hunit : firstUnit samples = .ok unit) :
    (source template).Delivers samples unit (Reached samples) where
  fetch := by
    rintro n _ rfl
    change fetch.EndsIn _ _
    rw [fetch, endsIn_bind, endsIn_get, continues_ok]
    dsimp only
    cases hn : samples[n]? with
    | none =>
      have hlength : samples.length ≤ n := List.getElem?_eq_none_iff.1 hn
      have hmin : min n samples.length = samples.length := by omega
      have hmin' : min (n + 1) samples.length = samples.length := by omega
      rw [hmin, List.getElem?_eq_none (Nat.le_refl _)]
      refine ⟨rfl, ?_⟩
      change (⟨samples, samples.length⟩ : SampleList) = ⟨samples, min (n + 1) samples.length⟩
      rw [hmin']
    | some x =>
      have hlength : n < samples.length := (List.getElem?_eq_some_iff.1 hn).1
      have hmin : min n samples.length = n := by omega
      have hmin' : min (n + 1) samples.length = n + 1 := by omega
      rw [hmin, hn]
      refine ⟨rfl, ?_⟩
      change (⟨samples, n + 1⟩ : SampleList) = ⟨samples, min (n + 1) samples.length⟩
      rw [hmin']
  unit := by
    rintro n _ rfl
    exact ⟨hunit, rfl⟩
  times := by
    rintro n _ rfl
    exact rfl

theorem pending_of_reached {n : Nat} {l : SampleList} (h : Reached samples n l) :
    samples.length ≤ n + (source template).pending l := by
  obtain rfl := h
  change samples.length ≤ n + (samples.length - min n samples.length)
  omega

/-- A series with these samples has the time that the list tells, and none if there are no samples. -/
theorem exists_time (unit : UnitOfMeasure) (hproper : ∀ x ∈ samples, Time.IsProper x.time)
    (hcomparable : ∀ s ∈ (samples.map (·.time)).flatMap Time.timestamps,
      ∀ t ∈ (samples.map (·.time)).flatMap Time.timestamps, s.comparable t = true) :
    ∃ times, timesOf samples = .ok times ∧
      (Result.ofSeries ⟨unit, samples⟩).phenomenonTime = .ok (times.getD {}).phenomenon ∧
      ((times.getD {}).phenomenon = none ↔ samples = []) := by
  have hproper : ∀ t ∈ samples.map (·.time), Time.IsProper t := by
    intro t ht
    obtain ⟨x, hx, rfl⟩ := List.mem_map.1 ht
    exact hproper x hx
  obtain ⟨p, hp⟩ := Period.exists_extendAll hproper hcomparable
  cases samples with
  | nil => exact ⟨none, rfl, rfl, iff_of_true rfl rfl⟩
  | cons x xs =>
    refine ⟨some { phenomenon := some (.period p), result := some (.ofTimestamp p.stop) }, ?_, ?_, ?_⟩
    · unfold timesOf
      rw [hp]
      rfl
    · have hseries : Series.phenomenonTime ⟨unit, x :: xs⟩ = .ok (some p) := by
        unfold Series.phenomenonTime
        rw [hp]
        rfl
      change (do return (← Series.phenomenonTime ⟨unit, x :: xs⟩).map Time.period) = _
      rw [hseries]
      rfl
    · simp

/-- **Streaming samples and merging them agree.** The observation of all samples of a list has the
series that merging them into an empty one gives, with the same unit and the same samples in their
order. The time that it is given is the time of this series; there is none only if there is no
sample. -/
theorem mergeObservation_eq_merge (samples : List Sample) (template : Observation)
    (options : List (String × Datum)) (transformer : Option (Transformer SampleList))
    (hvalues : ∀ x ∈ samples, x.HasValue) (hproper : ∀ x ∈ samples, Time.IsProper x.time)
    (hcomparable : ∀ s ∈ (samples.map (·.time)).flatMap Time.timestamps,
      ∀ t ∈ (samples.map (·.time)).flatMap Time.timestamps, s.comparable t = true)
    (hoptions : Datum.field? options Vocabulary.crs = none) :
    (Stream.mergeObservation (source template) transformer).EndsIn
      (stream template samples options) fun a _ => ∃ o series time, a = .ok o ∧
        o.result = some (.multi (some series) time) ∧
        (Result.ofSeries .empty).mergeSamples samples = .ok (.ofSeries series) ∧
        series.samples = samples ∧ o.phenomenonTime = .ok time ∧
        (Result.ofSeries series).phenomenonTime = .ok time ∧ (time = none ↔ samples = []) := by
  obtain ⟨unit, hunit, hfilled, hmerge⟩ := exists_firstUnit hvalues
  obtain ⟨times, htimes, hderived, hnone⟩ := exists_time unit hproper hcomparable
  have hempty : Series.combine .empty ⟨unit, samples⟩ = ⟨unit, samples⟩ := by
    have hmissing : UnitOfMeasure.missing.isFilled = false := rfl
    rcases hfilled with hfilled | rfl
    · simp [Series.combine, Series.empty, Series.isSetUnit, hfilled, hmissing]
    · simp [Series.combine, Series.empty]
  have hstart : Stream.Delivered samples unit (Reached samples) 0
      (stream template samples options) := by
    have hreached : Reached samples 0 { samples } := by
      rw [Reached, Nat.zero_min]
    exact .start hreached template options
  have hsamples : List.Forall₂ (fun x y => (source template).toSample unit x = .ok y)
      samples samples := by
    rw [List.forall₂_same]
    intro x hx
    rfl
  have htold {n : Nat} {l : SampleList} (hl : Reached samples n l) :
      (source template).times.EndsIn l fun a _ => a = .ok times := by
    obtain rfl := hl
    exact htimes
  refine (hstart.mergeObservation (source_delivers hunit) hsamples htold pending_of_reached rfl
    hoptions).mono ?_
  rintro a - ⟨o, ha, hresult⟩
  have htime : o.phenomenonTime = .ok (times.getD {}).phenomenon := by
    rw [Observation.phenomenonTime, hresult]
    cases hp : (times.getD {}).phenomenon with
    | some t => rfl
    | none =>
      rw [hp] at hderived
      exact hderived
  refine ⟨o, ⟨unit, samples⟩, _, ha, hresult, ?_, rfl, htime, hderived, hnone⟩
  rw [hmerge, hempty]

/-- Three samples: one at no known time and without a unit, one for a period without end, and one
without a time. -/
theorem mergeObservation_eq_merge_three :
    let samples : List Sample :=
      [⟨some (.instant (.ofTimestamp none)), some (.quantity (.int 1) .missing)⟩,
        ⟨some (.period ⟨some { shown := 0, offset := none }, none⟩),
          some (.quantity (.int 2) (.ofText "m"))⟩,
        ⟨none, some (.quantity (.int 3) (.ofText "s"))⟩]
    (Stream.mergeObservation (source {}) none).EndsIn (stream {} samples []) fun a _ =>
      ∃ o series time, a = .ok o ∧ o.result = some (.multi (some series) time) ∧
        (Result.ofSeries .empty).mergeSamples samples = .ok (.ofSeries series) ∧
        series.samples = samples ∧ (Result.ofSeries series).phenomenonTime = .ok time ∧
        time ≠ none := by
  intro samples
  have hvalues : ∀ x ∈ samples, x.HasValue := by
    simp only [samples, List.forall_mem_cons]
    exact ⟨⟨_, rfl, trivial, rfl⟩, ⟨_, rfl, trivial, rfl⟩, ⟨_, rfl, trivial, rfl⟩,
      List.forall_mem_nil _⟩
  have hproper : ∀ x ∈ samples, Time.IsProper x.time := by
    simp only [samples, List.forall_mem_cons]
    exact ⟨trivial, trivial, trivial, List.forall_mem_nil _⟩
  have hcomparable : ∀ s ∈ (samples.map (·.time)).flatMap Time.timestamps,
      ∀ t ∈ (samples.map (·.time)).flatMap Time.timestamps, s.comparable t = true := by
    decide
  have hoptions : Datum.field? [] Vocabulary.crs = none := rfl
  have hmain := mergeObservation_eq_merge samples {} [] none hvalues hproper hcomparable hoptions
  refine hmain.mono ?_
  rintro a - ⟨o, series, time, ha, hresult, hmerge, hsamples, -, hderived, hnone⟩
  refine ⟨o, series, time, ha, hresult, hmerge, hsamples, hderived, ?_⟩
  rw [Ne, hnone]
  exact List.cons_ne_nil _ _

end SampleList

end SensorSeries
