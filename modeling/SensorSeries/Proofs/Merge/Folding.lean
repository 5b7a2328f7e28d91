import SensorSeries.Proofs.Merge.Contribution

/-!
# Folding results

Bare results are merged one after the other, from the left. The first of them is taken as a series,
each later one is put behind the series so far, and both ways have their own rules for a placeholder,
for a series that is not there and for the unit. Still they amount to one and the same thing, the
`contribution` of a result, so the fold has a closed form (`foldMerge_eq`): the samples of all
results in their order, under the first unit that says something. A datum in place of a result ends
the fold, and the first such datum is what the failure names.
-/

namespace SensorSeries

namespace Series

/-- Combining series from the left, in one step: all samples in order, under the first unit that
says something, or else under the unit of the first series. -/
theorem foldl_combine (s : Series) (ts : List Series) : ts.foldl combine s =
    ⟨(((s :: ts).map (·.unit)).find? (·.isFilled)).getD s.unit, (s :: ts).flatMap (·.samples)⟩ := by
  induction ts generalizing s with
  | nil => cases hs : s.unit.isFilled <;> simp [hs]
  | cons t ts ih =>
    have hsamples : (s.combine t).samples = s.samples ++ t.samples := rfl
    have hunit : (s.combine t).unit = if !s.unit.isFilled && t.unit.isFilled then t.unit
        else s.unit := rfl
    rw [List.foldl_cons, ih]
    congr 1
    · -- a unit that says something is found at once; else the search goes on behind both
      cases hs : s.unit.isFilled <;> cases ht : t.unit.isFilled <;> simp [hunit, hs, ht]
    · simp [hsamples]

end Series

namespace Result

/-- Merges results into the first, one after the other. -/
def foldMerge (r : Option Result) (rs : List (Option Result)) : Except Failure (Option Result) :=
  rs.foldlM (fun r next => do return some (.ofSeries (← Series.merge r next))) r

/-- The datum that stands in place of a result, if one does. -/
def datum? : Option Result → Option Datum
  | some (.other d) => some d
  | _ => none

/-- The value of a single sample is missing or of one of the kinds of values. -/
def HasVariant : Result → Prop
  | .single sample => ∀ v ∈ sample.value, v.IsVariant
  | _ => True

/-- How merging fails on a datum in place of a result. -/
def notAResult (d : Datum) : Failure := .unsupported .observationValue d.kindName

variable {a b : Option Result}

theorem isPlain_of_datum?_eq_none (ha : ∀ x ∈ a, x.HasVariant) (h : datum? a = none) :
    ∀ x ∈ a, x.IsPlain := by
  intro x hx
  cases x with
  | single sample => exact ha _ hx
  | multi series time => trivial
  | other d =>
    cases hx
    cases h

theorem eq_other_of_datum?_eq_some {d : Datum} (h : datum? a = some d) : a = some (.other d) := by
  rcases a with _ | sample | ⟨series, time⟩ | e <;> cases h
  rfl

/-- A series can be merged on, and is no datum. -/
theorem ofSeries_hasVariant (s : Series) : ∀ x ∈ some (ofSeries s), x.HasVariant := by
  rintro x ⟨⟩
  trivial

@[simp] theorem datum?_ofSeries (s : Series) : datum? (some (ofSeries s)) = none := rfl

/-- One step of the fold: the first datum among the two results is refused. -/
theorem merge_eq (ha : ∀ x ∈ a, x.HasVariant) (hb : ∀ x ∈ b, x.HasVariant) :
    Series.merge a b = match datum? a, datum? b with
      | some d, _ => .error (notAResult d)
      | none, some d => .error (notAResult d)
      | none, none => .ok ((contribution a).combine (contribution b)) := by
  cases hda : datum? a with
  | some d =>
    rw [eq_other_of_datum?_eq_some hda]
    rfl
  | none =>
    have hpa := isPlain_of_datum?_eq_none ha hda
    cases hdb : datum? b with
    | some d =>
      rw [Series.merge, Series.startingWith_eq_ok hpa, eq_other_of_datum?_eq_some hdb]
      rfl
    | none => exact Series.merge_eq_ok hpa (isPlain_of_datum?_eq_none hb hdb)

theorem foldMerge_cons (a b : Option Result) (rs : List (Option Result)) :
    foldMerge a (b :: rs) = Series.merge a b >>= fun s => foldMerge (some (.ofSeries s)) rs := by
  simp only [foldMerge, List.foldlM_cons, bind_assoc, pure_bind]

/-- The fold goes through if no datum stands in place of a result, and no sample is lost. -/
theorem exists_foldMerge {rs : List (Option Result)}
    (h : ∀ r ∈ a :: b :: rs, ∀ x ∈ r, x.IsPlain) :
    ∃ series, foldMerge a (b :: rs) = .ok (some (.ofSeries series)) ∧
      series.samples = (a :: b :: rs).flatMap fun r => (contribution r).samples := by
  induction rs generalizing a b with
  | nil =>
    obtain ⟨ha, hb, -⟩ : _ ∧ _ ∧ _ := by simpa only [List.forall_mem_cons] using h
    refine ⟨(contribution a).combine (contribution b), ?_, ?_⟩
    · rw [foldMerge_cons, Series.merge_eq_ok ha hb]
      rfl
    · simp [Series.combine]
  | cons c rs ih =>
    -- The first two results become one, which is a series and so can be merged on.
    obtain ⟨ha, hb, hrs⟩ : _ ∧ _ ∧ ∀ r ∈ c :: rs, ∀ x ∈ r, x.IsPlain := by
      simpa only [List.forall_mem_cons] using h
    let merged := (contribution a).combine (contribution b)
    have hmerged : ∀ x ∈ some (ofSeries merged), x.IsPlain := by
      rintro _ ⟨⟩
      trivial
    obtain ⟨series, hfold, hsamples⟩ := ih (List.forall_mem_cons.2 ⟨hmerged, hrs⟩)
    refine ⟨series, ?_, ?_⟩
    · rw [foldMerge_cons, Series.merge_eq_ok ha hb]
      exact hfold
    · rw [hsamples]
      simp [contribution, ofSeries, merged, Series.combine]

/-- What the fold makes of the series so far. -/
theorem foldMerge_ofSeries (s : Series) {rs : List (Option Result)}
    (h : ∀ r ∈ rs, ∀ x ∈ r, x.HasVariant) :
    foldMerge (some (.ofSeries s)) rs = match rs.findSome? datum? with
      | some d => .error (notAResult d)
      | none => .ok (some (.ofSeries ((rs.map contribution).foldl Series.combine s))) := by
  induction rs generalizing s with
  | nil => rfl
  | cons r rs ih =>
    obtain ⟨hr, hrs⟩ := List.forall_mem_cons.1 h
    rw [foldMerge_cons, merge_eq (ofSeries_hasVariant s) hr]
    cases hd : datum? r with
    | some d => simp [hd]
    | none =>
      simp only [datum?_ofSeries, hd, ok_bind, List.findSome?_cons, List.map_cons, List.foldl_cons]
      exact ih _ hrs

/-- **The closed form of a fold.** The samples of all results in their order, a placeholder and a
series that is not there adding none; the first unit that says something, that of a placeholder
included, or else the unit of the first result; and no explicit time. If a datum stands in place of a
result, the fold fails, and tells the kind of the first such datum. -/
theorem foldMerge_eq (a b : Option Result) (rs : List (Option Result))
    (h : ∀ r ∈ a :: b :: rs, ∀ x ∈ r, x.HasVariant) :
    foldMerge a (b :: rs) = match (a :: b :: rs).findSome? datum? with
      | some d => .error (.unsupported .observationValue d.kindName)
      | none => .ok (some (.multi (some
          { unit := (((a :: b :: rs).map fun r => (contribution r).unit).find? (·.isFilled)).getD
              (contribution a).unit
            samples := (a :: b :: rs).flatMap fun r => (contribution r).samples }) none)) := by
  obtain ⟨ha, hbrs⟩ := List.forall_mem_cons.1 h
  obtain ⟨hb, hrs⟩ := List.forall_mem_cons.1 hbrs
  rw [foldMerge_cons, merge_eq ha hb]
  cases hda : datum? a with
  | some d => simp [hda, notAResult]
  | none =>
    cases hdb : datum? b with
    | some d => simp [hda, hdb, notAResult]
    | none =>
      have hchain := Series.foldl_combine (contribution a) ((b :: rs).map contribution)
      rw [List.map_cons, List.foldl_cons] at hchain
      simp only [ok_bind, foldMerge_ofSeries _ hrs, hchain, List.findSome?_cons, hda, hdb]
      simp [List.flatMap_map, Function.comp_def, ofSeries, notAResult]

/-- The empty unit of a placeholder gives way to the first unit that says something, that of another
placeholder; neither is a sample, but a time without a value is one. A text is refused. -/
theorem foldMerge_eq_placeholders :
    let time : Time := .instant .template
    let sample : Sample := ⟨some time, none⟩
    foldMerge (some (.single ⟨none, some (.nil (.ofText ""))⟩))
        [some (.multi none (some time)), none, some (.single sample),
          some (.single ⟨some time, some (.nil (.ofText "m"))⟩),
          some (.multi (some ⟨.ofText "s", [sample]⟩) (some time))] =
      .ok (some (.multi (some ⟨.ofText "m", [sample, sample]⟩) none)) ∧
    foldMerge (some (.single sample)) [none, some (.other (.text "level"))] =
      .error (.unsupported .observationValue "str") := by
  constructor
  · refine (foldMerge_eq _ _ _ ?_).trans rfl
    simp [HasVariant, Value.IsVariant]
  · refine (foldMerge_eq _ _ _ ?_).trans rfl
    simp [HasVariant]

end Result

namespace Observation

/-- Bare results are folded into an observation as they are folded by themselves. -/
theorem foldlM_mergeResult (o : Observation) (rs : List (Option Result)) :
    rs.foldlM mergeResult o = do return { o with result := ← Result.foldMerge o.result rs } := by
  induction rs generalizing o with
  | nil => rfl
  | cons r rs ih =>
    rw [List.foldlM_cons, Result.foldMerge_cons, mergeResult]
    simp only [bind_assoc, pure_bind, ih]

end Observation

end SensorSeries
