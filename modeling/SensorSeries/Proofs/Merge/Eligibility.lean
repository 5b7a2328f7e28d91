import SensorSeries.Merge.Basic
import SensorSeries.Proofs.Answers
import SensorSeries.Proofs.Merge.Contribution

/-!
# Groups of observations that can be merged

`mergeKey` is what the observations of one group share; an observation that can be merged with none
has no key. `refusal_eq_ok_none_iff` ties it to the checks of `refusal`: two observations are
merged exactly if they have one and the same key. The key of the first is the key of what they are
merged into, so merging never moves an observation to another group.
-/

namespace SensorSeries.Observation

/-- An observation with a real constellation, or none, and a result that has a contribution. -/
structure IsPlain (o : Observation) : Prop where
  constellation : ∀ a ∈ o.constellation, ∃ c, a = .constellation c
  result : ∀ r ∈ o.result, r.IsPlain

/-- The merge indicator; an empty one is none. -/
def filledIndicator (o : Observation) : Option String :=
  if o.isSetMergeIndicator then o.mergeIndicator else none

/-- What the observations of a group share: a constellation whose type allows merging, and the merge
indicator. -/
def mergeKey (o : Observation) : Option (Constellation × Option String) :=
  match o.constellation with
  | some (.constellation c) => if c.isMergeable then some (c, o.filledIndicator) else none
  | _ => none

/-- Whether two observations belong to one group. -/
def joins (a b : Observation) : Bool := a.mergeKey.isSome && decide (a.mergeKey = b.mergeKey)

variable {a b c m : Observation}

theorem joins_iff : a.joins b = true ↔ ∃ k, a.mergeKey = some k ∧ b.mergeKey = some k := by
  unfold joins
  cases a.mergeKey <;> simp [eq_comm]

theorem joins_comm (a b : Observation) : a.joins b = b.joins a := by
  rw [Bool.eq_iff_iff, joins_iff, joins_iff]
  exact exists_congr fun k => And.comm

theorem joins_trans (hab : a.joins b = true) (hbc : b.joins c = true) : a.joins c = true := by
  obtain ⟨k, ha, hb⟩ := joins_iff.1 hab
  obtain ⟨l, hb', hc⟩ := joins_iff.1 hbc
  rw [hb] at hb'
  cases hb'
  exact joins_iff.2 ⟨k, ha, hc⟩

theorem joins_congr (h : a.mergeKey = b.mergeKey) (o : Observation) : a.joins o = b.joins o := by
  unfold joins
  rw [h]

/-! ## The checks -/

theorem indicatorRefusal_eq_none_iff :
    indicatorRefusal a b = none ↔ a.filledIndicator = b.filledIndicator := by
  have hnone {o : Observation} (h : o.isSetMergeIndicator = true) : o.mergeIndicator ≠ none := by
    intro hn
    simp [isSetMergeIndicator, isFilled, hn] at h
  unfold indicatorRefusal filledIndicator
  cases ha : a.isSetMergeIndicator <;> cases hb : b.isSetMergeIndicator
  · simp
  · simpa using (hnone hb).symm
  · simpa using hnone ha
  · simp

/-- The checks of two real constellations. -/
theorem refusal_of_constellations {s t : Constellation}
    (ha : a.constellation = some (.constellation s))
    (hb : b.constellation = some (.constellation t)) :
    a.refusal b = .ok (if s = t then
      if s.isMergeable then indicatorRefusal a b else some (.typeNotMergeable s.observationType)
      else some .constellationsDiffer) := by
  unfold refusal
  rw [ha, hb]
  by_cases h : s = t <;> simp [Affiliation.same, Affiliation.asConstellation, h]

theorem mergeKey_of_constellation {s : Constellation}
    (h : a.constellation = some (.constellation s)) :
    a.mergeKey = if s.isMergeable then some (s, a.filledIndicator) else none := by
  unfold mergeKey
  rw [h]

theorem refusal_eq_ok_none_iff : a.refusal b = .ok none ↔ a.joins b = true := by
  rcases ha : a.constellation with _ | s | ⟨d, n⟩
  · simp [refusal, joins, mergeKey, ha]
  · rcases hb : b.constellation with _ | t | ⟨e, n⟩
    · simp [refusal, joins, mergeKey, ha, hb]
    · rw [refusal_of_constellations ha hb, joins, mergeKey_of_constellation ha,
        mergeKey_of_constellation hb]
      by_cases hst : s = t
      · subst hst
        cases s.isMergeable <;> simp [indicatorRefusal_eq_none_iff]
      · cases s.isMergeable <;> cases t.isMergeable <;> simp [hst]
    · simp [refusal, joins, mergeKey, ha, hb, Affiliation.same]
  · rcases hb : b.constellation with _ | t | ⟨e, n'⟩
    · simp [refusal, joins, mergeKey, ha, hb]
    · simp [refusal, joins, mergeKey, ha, hb, Affiliation.same]
    · simp only [refusal, joins, mergeKey, ha, hb, Affiliation.asConstellation]
      split <;> simp

/-- A real constellation can always be checked against whatever another observation has. -/
theorem exists_refusal_eq_ok (ha : ∀ s ∈ a.constellation, ∃ k, s = .constellation k)
    (b : Observation) : ∃ r, a.refusal b = .ok r := by
  rcases hca : a.constellation with _ | s
  · exact ⟨some .constellationMissing, by simp [refusal, hca]⟩
  · obtain ⟨s, rfl⟩ := ha s hca
    rcases hcb : b.constellation with _ | t | ⟨d, n⟩
    · exact ⟨some .constellationMissing, by simp [refusal, hca, hcb]⟩
    · exact ⟨_, refusal_of_constellations hca hcb⟩
    · exact ⟨some .constellationsDiffer, by simp [refusal, hca, hcb, Affiliation.same]⟩

theorem canMerge_eq_ok (ha : ∀ s ∈ a.constellation, ∃ k, s = .constellation k) (b : Observation) :
    a.canMerge b = .ok (a.joins b) := by
  obtain ⟨r, hr⟩ := exists_refusal_eq_ok ha b
  have hjoins : r = none ↔ a.joins b = true := by
    rw [← refusal_eq_ok_none_iff, hr, Except.ok.injEq]
  unfold canMerge
  rw [hr, ok_bind, pure_eq_ok, Except.ok.injEq, Bool.eq_iff_iff, Option.isNone_iff_eq_none, hjoins]

theorem merge_of_joins (h : a.joins b = true) : a.merge b = a.join b := by
  unfold merge
  rw [refusal_eq_ok_none_iff.2 h]
  rfl

theorem merge_eq_ok_iff : a.merge b = .ok m ↔ a.joins b = true ∧ a.join b = .ok m := by
  cases h : a.joins b with
  | true => simp [merge_of_joins h]
  | false =>
    have hne : a.refusal b ≠ .ok none := by simp [refusal_eq_ok_none_iff, h]
    unfold merge
    rcases hr : a.refusal b with e | _ | reason
    · simp
    · exact absurd hr hne
    · simp

/-! ## Merged observations -/

/-- An observation with other samples and another result time, and no explicit time. -/
def withSeries (o : Observation) (s : Series) (t : Option Instant) : Observation :=
  { o with result := some (.ofSeries s), resultTime := t }

@[simp] theorem contribution_withSeries (o : Observation) (s : Series) (t : Option Instant) :
    Result.contribution (o.withSeries s t).result = s := rfl

@[simp] theorem resultTime_withSeries (o : Observation) (s : Series) (t : Option Instant) :
    (o.withSeries s t).resultTime = t := rfl

theorem plain_withSeries (o : Observation) (s : Series) (t : Option Instant) :
    ∀ r ∈ (o.withSeries s t).result, r.IsPlain := by
  rintro r ⟨⟩
  trivial

theorem IsPlain.withSeries (h : a.IsPlain) (s : Series) (t : Option Instant) :
    (a.withSeries s t).IsPlain where
  constellation := h.constellation
  result := plain_withSeries a s t

theorem join_eq (ha : ∀ r ∈ a.result, r.IsPlain) (hb : ∀ r ∈ b.result, r.IsPlain) :
    a.join b = do
      return a.withSeries ((Result.contribution a.result).combine (Result.contribution b.result))
        (← Instant.latest a.resultTime b.resultTime) := by
  unfold join
  rw [Series.merge_eq_ok ha hb]
  rfl

/-! ## Counts of a gauge -/

/-- One count. -/
def countSample (n : Int) : Sample :=
  ⟨none, some (.component { kind := .count, value := .int n, unit := .missing })⟩

/-- A count of a gauge, in the group of an indicator. -/
def counted (indicator : String) (n : Int) : Observation :=
  { template "gauge" "level" Vocabulary.countObservation with
    result := some (.single (countSample n))
    mergeIndicator := some indicator }

/-- Counts of a gauge that have been merged. -/
def countedAll (indicator : String) (ns : List Int) : Observation :=
  { counted indicator 0 with result := some (.ofSeries ⟨.missing, ns.map countSample⟩) }

theorem isPlain_counted (indicator : String) (n : Int) : (counted indicator n).IsPlain where
  constellation := by
    rintro a ⟨⟩
    exact ⟨_, rfl⟩
  result := by
    rintro r ⟨⟩ v ⟨⟩
    trivial

theorem joins_counted (i j : String) (n m : Int) :
    (counted i n).joins (counted j m) = decide (i = j) := by
  have hkey (k : String) (l : Int) :
      (counted k l).mergeKey = some (_, (counted k l).filledIndicator) := rfl
  have hindicator (k : String) (l : Int) :
      (counted k l).filledIndicator = if k = "" then none else some k := by
    by_cases hk : k = "" <;> simp [filledIndicator, isSetMergeIndicator, counted, isFilled, hk]
  rw [joins, hkey, hkey, hindicator, hindicator]
  by_cases hi : i = "" <;> by_cases hj : j = "" <;> simp [hi, hj, eq_comm]

end SensorSeries.Observation
