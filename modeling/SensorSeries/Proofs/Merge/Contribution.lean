import SensorSeries.Merge.Basic
import SensorSeries.Proofs.Answers

/-!
# What a result brings into a merge

Merging reduces every result to a series, its `contribution`, and puts the second series behind the
first (`merge_eq_ok`). Series form a monoid in this way: the samples are concatenated, and the unit
is the first that says something. Only a result that `IsPlain` has a contribution: a series, or one
sample whose value is missing or of one of the kinds of values.
-/

namespace SensorSeries

/-- Whether a value is of one of the kinds of values, and not a mere datum. -/
def Value.IsVariant : Value → Prop
  | .other _ => False
  | _ => True

namespace Series

/-- The samples of one series behind those of another, under the first unit that says something. -/
def combine (s t : Series) : Series :=
  ⟨if !s.isSetUnit && t.isSetUnit then t.unit else s.unit, s.samples ++ t.samples⟩

@[simp] theorem isSetUnit_combine (s t : Series) :
    (s.combine t).isSetUnit = (s.isSetUnit || t.isSetUnit) := by
  unfold combine isSetUnit
  cases hs : s.unit.isFilled <;> cases ht : t.unit.isFilled <;> simp [hs, ht]

theorem combine_assoc (s t u : Series) : (s.combine t).combine u = s.combine (t.combine u) := by
  have hunit : ((s.combine t).combine u).unit = (s.combine (t.combine u)).unit := by
    change (if _ then _ else _) = (if _ then _ else _)
    rw [isSetUnit_combine, isSetUnit_combine]
    unfold combine
    cases s.isSetUnit <;> cases t.isSetUnit <;> cases u.isSetUnit <;> rfl
  calc (s.combine t).combine u
      = ⟨((s.combine t).combine u).unit, s.samples ++ t.samples ++ u.samples⟩ := rfl
    _ = ⟨(s.combine (t.combine u)).unit, s.samples ++ (t.samples ++ u.samples)⟩ := by
        rw [hunit, List.append_assoc]
    _ = s.combine (t.combine u) := rfl

@[simp] theorem combine_empty (s : Series) : s.combine .empty = s := by
  simp [combine, empty, isSetUnit, UnitOfMeasure.isFilled, UnitOfMeasure.missing, Datum.truthy]

end Series

namespace Result

/-- A series, or a sample that can be asked for its unit. Those of a series are never asked. -/
def IsPlain : Result → Prop
  | .single sample => ∀ v ∈ sample.value, v.IsVariant
  | .multi _ _ => True
  | .other _ => False

/-- The unit of a sample, none if there is no value to have one. -/
def sampleUnit : Option Value → UnitOfMeasure
  | some (.component c) => c.unit
  | some (.geometry _ unit) => unit
  | some (.nil unit) => unit
  | _ => .missing

/-- The series that a result brings into a merge. -/
def contribution : Option Result → Series
  | some (.single sample) =>
    ⟨sampleUnit sample.value, if sample.value.any (·.isNil) then [] else [sample]⟩
  | some (.multi series _) => series.getD .empty
  | _ => .empty

theorem unit_single {sample : Sample} (h : (single sample).IsPlain) :
    (single sample).unit = .ok (sampleUnit sample.value) := by
  rcases sample with ⟨t, _ | v⟩
  · rfl
  · cases v <;> first | rfl | exact (h _ rfl).elim

end Result

namespace Series

open Result (contribution)

theorem startingWith_eq_ok {r : Option Result} (h : ∀ x ∈ r, x.IsPlain) :
    startingWith r = .ok (contribution r) := by
  rcases r with _ | ⟨t, v⟩ | ⟨series, time⟩ | d
  · rfl
  · have hu := Result.unit_single (h _ rfl)
    rcases v with _ | c | g | u | d <;> first | rfl | exact (h _ rfl _ rfl).elim
  · rfl
  · exact (h _ rfl).elim

theorem adoptUnitOf_eq_ok (s : Series) {r : Result} {u : UnitOfMeasure} (h : r.unit = .ok u) :
    s.adoptUnitOf r = .ok ⟨if !s.isSetUnit && u.isFilled then u else s.unit, s.samples⟩ := by
  unfold adoptUnitOf adoptUnit
  cases s.isSetUnit <;> cases hu : u.isFilled <;> simp [h, hu]

theorem append_eq_ok (s : Series) {r : Option Result} (h : ∀ x ∈ r, x.IsPlain) :
    s.append r = .ok (s.combine (contribution r)) := by
  rcases r with _ | sample | ⟨series, time⟩ | d
  · simp [append, contribution]
  · have hu := Result.unit_single (h _ rfl)
    simp only [append, adoptUnitOf_eq_ok _ hu, contribution, combine]
    cases sample.value.any (·.isNil) <;> simp [add, isSetUnit]
  · cases series with
    | none =>
      calc s.append (some (.multi none time))
          = .ok ⟨if !s.isSetUnit && UnitOfMeasure.missing.isFilled then .missing else s.unit,
              s.samples⟩ := adoptUnitOf_eq_ok s rfl
        _ = .ok (s.combine .empty) := by rw [combine_empty, Bool.and_comm]; rfl
    | some t => exact adoptUnitOf_eq_ok (s.addAll t.samples) rfl
  · exact (h _ rfl).elim

/-- Merging concatenates what the two results bring. -/
theorem merge_eq_ok {a b : Option Result} (ha : ∀ x ∈ a, x.IsPlain) (hb : ∀ x ∈ b, x.IsPlain) :
    Series.merge a b = .ok ((contribution a).combine (contribution b)) := by
  simp [Series.merge, startingWith_eq_ok ha, append_eq_ok _ hb]

end Series

end SensorSeries
