import SensorSeries.Database.Stream
import SensorSeries.Proofs.Stream.Progress
import SensorSeries.Rehearsal.Connection

/-!
# Times that a template stands in for

The observation of what is left of a stream has the result time and the valid time that the stream was
told, and those of the template where the stream was told none. A time that is not set is a time all
the same: if the stream was told one, the template does not stand in for it
(`fallsBack_orElse_iff`). Samples in memory tell such a result time if they are there and none of
them has an end; a database tells one only in an answer with something in place of a timestamp that
stands for none (`merged_times_fall_back`).
-/

namespace SensorSeries

/-- A time is the one that was told if that is set, and the one of the template otherwise. -/
structure FallsBack {α : Type} (IsSet : α → Prop) (told template time : Option α) : Prop where
  of_set : ∀ a ∈ told, IsSet a → time = told
  of_unset : (∀ a ∈ told, ¬ IsSet a) → time = template

/-- The time that was told, or else that of the template, is as it should be unless one that is not
set was told and keeps away another one. -/
theorem fallsBack_orElse_iff {α : Type} {IsSet : α → Prop} {told template : Option α} :
    FallsBack IsSet told template (told <|> template) ↔
      ∀ a ∈ told, IsSet a ∨ template = some a := by
  rcases told with _ | a
  · simp only [Option.not_mem_none, false_implies, implies_true, iff_true]
    refine ⟨?_, fun _ => rfl⟩
    rintro _ ⟨⟩
  · by_cases hset : IsSet a
    · refine iff_of_true ⟨fun _ _ _ => rfl, fun hnot => absurd hset (hnot a rfl)⟩ ?_
      rintro _ ⟨⟩
      exact .inl hset
    · have hnot : ∀ b ∈ some a, ¬ IsSet b := by
        rintro _ ⟨⟩
        exact hset
      constructor
      · rintro h _ ⟨⟩
        exact .inr (h.of_unset hnot).symm
      · intro h
        obtain hset' | rfl := h a rfl
        · exact absurd hset' hset
        · exact ⟨fun b hb hb' => absurd hb' (hnot b hb), fun _ => rfl⟩

variable {σ ε : Type}

/-- A source that tells no times but these, as long as it is in one of these states, and stays in them
while it is read. -/
structure Source.Informs (src : Source σ ε) (P : σ → Prop) (R : Option Times → Prop) : Prop where
  fetch : ∀ b, P b → src.fetch.EndsIn b fun _ b => P b
  unit : ∀ b, P b → src.unit.EndsIn b fun _ b => P b
  times : ∀ b, P b → src.times.EndsIn b fun a b => P b ∧ ∀ known, a = .ok known → R known

namespace Stream

open SensorSeries.Action

variable {src : Source σ ε} {P : σ → Prop} {R : Option Times → Prop} {s : Stream σ}
  {calls : List Call}

/-- The source is in one of these states, and the stream was told no times but these. -/
structure Informed (P : σ → Prop) (R : Option Times → Prop) (s : Stream σ) : Prop where
  backing : P s.backing
  times : ∀ known ∈ s.times.known, R known

namespace Informed

theorem start {b : σ} (hb : P b) (template : Observation) (options : List (String × Datum)) :
    Informed P R { backing := b, template, options } where
  backing := hb
  times := by
    rintro _ ⟨⟩

variable (h : src.Informs P R)

include h

theorem keeps : Keeps src fun _ => Informed P R :=
  .of_frame (fun _ hs => hs.backing) h.fetch h.unit fun _ _ _ _ hs hb => ⟨hb, hs.times⟩

/-- Times that a reader gets were told by the source. -/
theorem readTimes (hs : Informed P R s) :
    (readTimes src).EndsIn s fun a t => Informed P R t ∧ ∀ r, a = .ok r →
      ∃ known, t.times.known = some known ∧ R known ∧ r = known.getD {} := by
  rw [endsIn_readTimes]
  split
  · next known hknown =>
    refine ⟨hs, ?_⟩
    rintro _ ⟨⟩
    exact ⟨known, hknown, hs.times known hknown, rfl⟩
  · refine (h.times _ hs.backing).mono ?_
    rintro (e | known) b ⟨hb, htold⟩
    · refine ⟨⟨hb, hs.times⟩, ?_⟩
      rintro _ ⟨⟩
    · have hknown := htold known rfl
      refine ⟨⟨hb, ?_⟩, ?_⟩
      · rintro _ ⟨⟩
        exact hknown
      · rintro _ ⟨⟩
        exact ⟨known, rfl, hknown, rfl⟩

theorem after (transformer : Option (Transformer σ)) (hcalls : ∀ c ∈ calls, c.isRead = true)
    (hs : Informed P R s) : Informed P R (after src transformer s calls) :=
  (keeps h).after_reads (fun hs => (readTimes h hs).mono fun _ _ ht => ht.1) hcalls hs

/-- **The times of an observation of what is left** are the ones that the stream was told, and those
of the template where it was told none. -/
theorem mergeObservation (transformer : Option (Transformer σ)) (hs : Informed P R s) :
    (mergeObservation src transformer).EndsIn s fun a t => ∀ o, a = .ok o →
      ∃ known : Option Times, R known ∧ t.times.known = some known ∧
        o.resultTime = ((known.getD {}).result <|> s.template.resultTime) ∧
        o.validTime = ((known.getD {}).valid <|> s.template.validTime) := by
  unfold Stream.mergeObservation
  rw [endsIn_bind, endsIn_get, continues_ok]
  have hunit : (readUnit src).EndsIn s fun a t => ∀ u, a = .ok u → Informed P R t :=
    ((keeps h).readUnit hs).mono fun _ _ ht _ _ => ht
  refine hunit.bind_answer fun u t ht => ?_
  have hdrain : (drain src).EndsIn t fun a t => ∀ xs, a = .ok xs → Informed P R t :=
    ((keeps h).drain ht).mono fun _ _ ht _ _ => ht
  refine hdrain.bind_answer fun xs t ht => ?_
  refine ((readTimes h ht).mono fun _ _ ht => ht.2).bind_answer ?_
  rintro _ t ⟨known, hknown, htold, rfl⟩
  rw [endsIn_bind, endsIn_modified]
  refine EndsIn.of_forall _ _ fun r x => ?_
  cases r with
  | error e => rintro _ ⟨⟩
  | ok _ =>
    rintro _ ⟨⟩
    exact ⟨known, htold, hknown, rfl, rfl⟩

/-- However far a fresh stream was read, its template and what its source tells make the times. -/
theorem mergeObservation_after (transformer : Option (Transformer σ)) {b : σ} (hb : P b)
    (template : Observation) (options : List (String × Datum))
    (hcalls : ∀ c ∈ calls, c.isRead = true) :
    (Stream.mergeObservation src transformer).EndsIn
      (Stream.after src transformer { backing := b, template, options } calls) fun a t =>
      ∀ o, a = .ok o → ∃ known : Option Times, R known ∧ t.times.known = some known ∧
        o.resultTime = ((known.getD {}).result <|> template.resultTime) ∧
        o.validTime = ((known.getD {}).valid <|> template.validTime) := by
  let s : Stream σ := { backing := b, template, options }
  have hinformed : Informed P R (Stream.after src transformer s calls) :=
    (start hb template options).after h transformer hcalls
  have hmade : MadeWith template options (Stream.after src transformer s calls) :=
    .after transformer hcalls ⟨rfl, rfl⟩
  have hmerged := hinformed.mergeObservation h transformer
  rwa [hmade.1] at hmerged

end Informed

end Stream

/-! ## Samples in memory -/

namespace SampleList

open SensorSeries.Action

variable {samples : List Sample} {told : Option Times}

/-- A list tells the times of its samples, however far it has been read. -/
theorem source_informs (template : Observation) (samples : List Sample) :
    (source template).Informs (fun l => l.samples = samples)
      (fun known => timesOf samples = .ok known) where
  fetch := by
    rintro l rfl
    change fetch.EndsIn l _
    rw [fetch, endsIn_bind, endsIn_get, continues_ok]
    split
    · exact rfl
    · exact rfl
  unit := by
    rintro l rfl
    exact rfl
  times := by
    rintro l rfl
    exact ⟨rfl, fun _ h => h⟩

/-- There is a result time if there are samples, and it is set if one of them has an end. -/
theorem timesOf_cases (h : timesOf samples = .ok told) :
    (samples = [] ∧ told = none) ∨
      ∃ stop, samples ≠ [] ∧ (told.getD {}).result = some (.ofTimestamp stop) ∧
        (told.getD {}).valid = none ∧
        (stop = none ↔ (samples.map (·.time)).flatMap Time.stops = []) := by
  cases samples with
  | nil =>
    cases h
    exact .inl ⟨rfl, rfl⟩
  | cons x xs =>
    unfold timesOf at h
    cases hp : Period.empty.extendAll ((x :: xs).map (·.time)) with
    | error e =>
      rw [hp] at h
      cases h
    | ok p =>
      rw [hp] at h
      cases h
      exact .inr ⟨p.stop, List.cons_ne_nil _ _, rfl, rfl,
        (Period.isHull_of_extendAll hp).stop.eq_none_iff⟩

end SampleList

/-! ## Databases -/

/-- A cell of a row that holds a timestamp, if anything. -/
def Datum.IsClocked (d : Datum) : Prop := d = .null ∨ ∃ t, d = .time t

theorem Datum.IsClocked.toTimestamp {d : Datum} (h : d.IsClocked) :
    ∃ t, d.toTimestamp = .ok t ∧ (t = none ↔ d = .null) := by
  obtain rfl | ⟨t, rfl⟩ := h
  · exact ⟨none, rfl, iff_of_true rfl rfl⟩
  · exact ⟨some t.recounted, rfl, iff_of_false nofun nofun⟩

namespace Cursor

open SensorSeries.Action

variable {κ : Type} {told : Option Times}

/-- A database tells what it has answered in some row. -/
theorem source_informs (conn : Connection κ) (d : DataStream) :
    (source conn d).Informs (fun _ => True) (fun known => ∃ row, timesOf row = .ok known) where
  fetch _ _ := trivial
  unit _ _ := trivial
  times c _ := by
    change (do Action.lift (timesOf (← askRow conn (d.statement .times))) :
      Action (Cursor κ) (Option Times)).EndsIn c _
    rw [endsIn_bind]
    refine EndsIn.of_forall _ _ ?_
    rintro (e | row) b
    · refine ⟨trivial, ?_⟩
      rintro _ ⟨⟩
    · exact ⟨trivial, fun known h => ⟨row, h⟩⟩

theorem isSet_of_validTimeOf {start stop : Datum} {v : Time} (hstart : start.IsClocked)
    (hstop : stop.IsClocked) (h : validTimeOf start stop = .ok (some v)) : v.isSet = .ok true := by
  obtain ⟨s, hs, hsnone⟩ := hstart.toTimestamp
  obtain ⟨e, he, henone⟩ := hstop.toTimestamp
  unfold validTimeOf at h
  split at h
  · cases h
  · next hbounds =>
    obtain ⟨p, hp, h⟩ := bind_eq_ok.1 h
    cases h
    rw [Period.ofData, hs, ok_bind, he, ok_bind] at hp
    obtain ⟨rfl, -⟩ := Period.make_eq_ok_iff.1 hp
    have hset : ¬ (s = none ∧ e = none) := fun ⟨hs, he⟩ => hbounds (hsnone.1 hs) (henone.1 he)
    cases s with
    | some s => rfl
    | none =>
      cases e with
      | some e => rfl
      | none => exact absurd ⟨rfl, rfl⟩ hset

/-- Times that were told in cells that hold timestamps are set. -/
theorem isSet_of_clocked {cells : Row} (hcells : ∀ d ∈ cells, d.IsClocked)
    (h : timesOf (some cells) = .ok told) :
    (∀ i ∈ (told.getD {}).result, i.isSet = true) ∧
      ∀ v ∈ (told.getD {}).valid, v.isSet = .ok true := by
  unfold timesOf at h
  split at h
  · next hrow => cases hrow
  · cases h
  · cases h
    simp
  · next start stop result validStart validStop _ hrow =>
    cases hrow
    simp only [List.forall_mem_cons] at hcells
    obtain ⟨-, -, hresult, hvalidStart, hvalidStop, -⟩ := hcells
    obtain ⟨valid, hvalid, h⟩ := bind_eq_ok.1 h
    have hvalidSet : ∀ v ∈ valid, v.isSet = .ok true := by
      rintro v rfl
      exact isSet_of_validTimeOf hvalidStart hvalidStop hvalid
    obtain rfl | ⟨t, rfl⟩ := hresult
    · change (Period.ofData start stop >>= _) = _ at h
      obtain ⟨phenomenon, -, h⟩ := bind_eq_ok.1 h
      cases h
      exact ⟨by simp, hvalidSet⟩
    · change (Period.ofData start stop >>= _) = _ at h
      obtain ⟨phenomenon, -, h⟩ := bind_eq_ok.1 h
      cases h
      exact ⟨by simp [Instant.isSet, Instant.ofTimestamp], hvalidSet⟩
  · cases h

end Cursor

/-! ## Both -/

namespace Stream

open SensorSeries.Action

/-- **When the template stands in for a time.** The observation of what is left of a stream, wherever
it has been read to, has the times that the stream was told, and those of the template where it was
told none. Over samples in memory the valid time is always as it should be. The result time is if
there is no sample, or one of them has an end, or the template says as little; otherwise that of the
template is lost. Over a database each of them is as it should be if the one that was told is set or
that of the template is the same, and so it always is if the cells that were answered hold timestamps,
if anything. -/
theorem merged_times_fall_back (template : Observation) (options : List (String × Datum))
    (calls : List Call) (hcalls : ∀ c ∈ calls, c.isRead = true) :
    (∀ (samples : List Sample) (transformer : Option (Transformer SampleList)),
      let src := SampleList.source template
      let stops := (samples.map (·.time)).flatMap Time.stops
      (mergeObservation src transformer).EndsIn
        (after src transformer (SampleList.stream template samples options) calls) fun a t =>
        ∀ o, a = .ok o → ∃ known : Option Times, t.times.known = some known ∧
          (FallsBack (·.isSet = true) (known.getD {}).result template.resultTime o.resultTime ↔
            samples = [] ∨ stops ≠ [] ∨ template.resultTime = some (.ofTimestamp none)) ∧
          (o.isSetResultTime = true ↔
            stops ≠ [] ∨ samples = [] ∧ template.isSetResultTime = true) ∧
          FallsBack (·.isSet = .ok true) (known.getD {}).valid template.validTime o.validTime) ∧
    ∀ {κ : Type} (conn : Connection κ) (k : κ) (d : DataStream)
      (transformer : Option (Transformer (Cursor κ))),
      let src := Cursor.source conn d
      (mergeObservation src transformer).EndsIn
        (after src transformer { backing := { connection := k }, template, options } calls)
        fun a t => ∀ o, a = .ok o → ∃ row known, Cursor.timesOf row = .ok known ∧
          t.times.known = some known ∧
          (FallsBack (·.isSet = true) (known.getD {}).result template.resultTime o.resultTime ↔
            ∀ i ∈ (known.getD {}).result, i.isSet = true ∨ template.resultTime = some i) ∧
          (FallsBack (·.isSet = .ok true) (known.getD {}).valid template.validTime o.validTime ↔
            ∀ v ∈ (known.getD {}).valid, v.isSet = .ok true ∨ template.validTime = some v) ∧
          ((∀ cell ∈ row.getD [], Datum.IsClocked cell) →
            FallsBack (·.isSet = true) (known.getD {}).result template.resultTime o.resultTime ∧
            FallsBack (·.isSet = .ok true) (known.getD {}).valid template.validTime o.validTime) := by
  constructor
  · intro samples transformer src stops
    refine (Informed.mergeObservation_after (SampleList.source_informs template samples) transformer
      (by rfl) template options hcalls).mono ?_
    rintro a t hmerged o ho
    obtain ⟨known, htold, hknown, hresult, hvalid⟩ := hmerged o ho
    refine ⟨known, hknown, ?_⟩
    rw [Observation.isSetResultTime, hresult, hvalid, fallsBack_orElse_iff, fallsBack_orElse_iff]
    obtain ⟨rfl, rfl⟩ | ⟨stop, hne, hr, hv, hstop⟩ := SampleList.timesOf_cases htold
    · simp [stops, Observation.isSetResultTime]
    · rw [hr, hv]
      cases stop with
      | none => simp [stops, hne, hstop.1 rfl, Instant.isSet, Instant.ofTimestamp]
      | some s =>
        have hstops : stops ≠ [] := fun hnil => Option.some_ne_none s (hstop.2 hnil)
        simp [hne, hstops, Instant.isSet, Instant.ofTimestamp]
  · intro κ conn k d transformer src
    refine (Informed.mergeObservation_after (Cursor.source_informs conn d) transformer trivial template
      options hcalls).mono ?_
    rintro a t hmerged o ho
    obtain ⟨known, ⟨row, hrow⟩, hknown, hresult, hvalid⟩ := hmerged o ho
    refine ⟨row, known, hrow, hknown, ?_⟩
    rw [hresult, hvalid, fallsBack_orElse_iff, fallsBack_orElse_iff]
    refine ⟨.rfl, .rfl, fun hclocked => ?_⟩
    cases row with
    | none =>
      cases hrow
      simp
    | some cells =>
      obtain ⟨hresult, hvalid⟩ := Cursor.isSet_of_clocked hclocked hrow
      exact ⟨fun i hi => .inl (hresult i hi), fun v hv => .inl (hvalid v hv)⟩

/-- One sample at a known time, of which the unit has been asked for, and a database that tells a time
without a result time: the first has a result time of its own, the second takes that of the template. -/
theorem merged_times_fall_back_told :
    let clock (n : Int) : Timestamp := { shown := n, offset := none }
    let template : Observation := { resultTime := some (.ofTimestamp (some (clock 9))) }
    let samples : List Sample :=
      [⟨some (.instant (.ofTimestamp (some (clock 3)))), some (.quantity (.int 1) .missing)⟩]
    let cells : Row := [.time (clock 0), .time (clock 5), .null, .null, .null]
    let k : Rehearsal := { rows := [], units := [none], times := [some cells] }
    let d : DataStream :=
      { schema := "s", id := .int 1, start := .text "-Infinity", stop := .text "Infinity"
        fetchSize := .int 2 }
    let listed := SampleList.source template
    let stored := Cursor.source Rehearsal.connection d
    (mergeObservation listed none).EndsIn
      (after listed none (SampleList.stream template samples []) [.unit]) (fun a _ =>
        ∃ o, a = .ok o ∧ o.isSetResultTime = true) ∧
    (mergeObservation stored none).EndsIn
      (after stored none { backing := { connection := k }, template } [.unit]) fun a _ =>
        ∃ o, a = .ok o ∧ o.resultTime = template.resultTime := by
  intro clock template samples cells k d listed stored
  have hreads : ∀ c ∈ [Call.unit], c.isRead = true := by decide
  obtain ⟨hlisted, hstored⟩ := merged_times_fall_back template [] [.unit] hreads
  constructor
  · have hmade : (mergeObservation listed none).EndsIn
        (after listed none (SampleList.stream template samples []) [.unit]) fun a _ =>
        a.toOption.isSome = true := by
      unfold EndsIn
      decide +kernel
    refine ((hlisted samples none).and hmade).mono ?_
    rintro a t ⟨hmerged, hmade⟩
    obtain ⟨o, ho⟩ := Option.isSome_iff_exists.1 hmade
    rw [toOption_eq_some] at ho
    obtain ⟨known, -, -, hset, -⟩ := hmerged o ho
    have hstops : (samples.map (·.time)).flatMap Time.stops ≠ [] := List.cons_ne_nil _ _
    exact ⟨o, ho, hset.2 (.inl hstops)⟩
  · have hmade : (mergeObservation stored none).EndsIn
        (after stored none { backing := { connection := k }, template } [.unit]) fun a t =>
        a.toOption.isSome = true ∧
          (t.times.known.all fun known => (known.getD {}).result.isNone) = true := by
      unfold EndsIn
      decide +kernel
    refine ((hstored Rehearsal.connection k d none).and hmade).mono ?_
    rintro a t ⟨hmerged, hmade, huntold⟩
    obtain ⟨o, ho⟩ := Option.isSome_iff_exists.1 hmade
    rw [toOption_eq_some] at ho
    obtain ⟨row, known, -, hknown, hresult, -, -⟩ := hmerged o ho
    rw [hknown, Option.all_some, Option.isNone_iff_eq_none] at huntold
    rw [huntold] at hresult
    exact ⟨o, ho, (hresult.2 (by simp)).of_unset (by simp)⟩

/-- A single sample at an indeterminate instant gives the stream a result time that is not set, and the
one of the template is lost. -/
theorem merged_result_time_lost :
    let template : Observation :=
      { resultTime := some (.ofTimestamp (some { shown := 0, offset := none })) }
    let samples : List Sample :=
      [⟨some (.instant ⟨none, some .unknown, none⟩), some (.quantity (.int 1) .missing)⟩]
    template.isSetResultTime = true ∧
    (mergeObservation (SampleList.source template) none).EndsIn (SampleList.stream template samples [])
      fun a t => ∃ o known, a = .ok o ∧ t.times.known = some known ∧
        (known.getD {}).result.any (·.isSet) = false ∧ o.resultTime ≠ template.resultTime ∧
        o.isSetResultTime = false := by
  intro template samples
  have hset : template.isSetResultTime = true := rfl
  have hlost : (mergeObservation (SampleList.source template) none).EndsIn
      (SampleList.stream template samples []) fun a t =>
      (a.toOption.any fun o => !o.isSetResultTime) = true ∧
        (t.times.known.any fun known => !(known.getD {}).result.any (·.isSet)) = true := by
    unfold EndsIn
    decide +kernel
  refine ⟨hset, hlost.mono ?_⟩
  rintro a t ⟨hlost, htold⟩
  rw [Option.any_eq_true] at hlost htold
  obtain ⟨o, ho, hunset⟩ := hlost
  obtain ⟨known, hknown, htold⟩ := htold
  rw [Bool.not_eq_true'] at hunset htold
  refine ⟨o, known, toOption_eq_some.1 ho, hknown, htold, fun hsame => ?_, hunset⟩
  rw [Observation.isSetResultTime, hsame] at hunset
  exact Bool.noConfusion (hset.symm.trans hunset)

end Stream

end SensorSeries
