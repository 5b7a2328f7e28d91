import SensorSeries.Proofs.Merge.Eligibility
import SensorSeries.Proofs.Time.Latest

/-!
# Merging is associative

Samples are concatenated, the first unit that says something wins, and so does the first of the
latest result times; each of these is associative, and so is `join` (`join_assoc`), failures
included. The checks of `merge` add nothing to this: whichever pair is merged first, the merge goes
through only if all three observations belong to one group. Hence `merge_assoc`, for observations
with any constellations, indicators and result times.
-/

namespace SensorSeries.Observation

open Result (contribution)

variable {a b c m : Observation}

theorem join_assoc (ha : ∀ r ∈ a.result, r.IsPlain) (hb : ∀ r ∈ b.result, r.IsPlain)
    (hc : ∀ r ∈ c.result, r.IsPlain) :
    (do (← a.join b).join c) = (do a.join (← b.join c)) := by
  let whole := a.withSeries (((contribution a.result).combine (contribution b.result)).combine
    (contribution c.result))
  calc (do (← a.join b).join c)
      = (do return whole (← Instant.latest (← Instant.latest a.resultTime b.resultTime)
          c.resultTime)) := by
        simp only [join_eq ha hb, join_eq (plain_withSeries _ _ _) hc, bind_assoc, pure_bind]
        rfl
    _ = (do return whole (← Instant.latest a.resultTime
          (← Instant.latest b.resultTime c.resultTime))) := by
        have h := Instant.latest_assoc a.resultTime b.resultTime c.resultTime
        simp only [← bind_assoc] at h ⊢
        rw [h]
    _ = (do a.join (← b.join c)) := by
        simp only [join_eq hb hc, join_eq ha (plain_withSeries _ _ _), bind_assoc, pure_bind,
          contribution_withSeries, resultTime_withSeries, ← Series.combine_assoc, whole]

/-- What observations are joined to keeps the group of the first. -/
theorem mergeKey_of_join (h : a.join b = .ok m) : m.mergeKey = a.mergeKey := by
  unfold join at h
  obtain ⟨s, -, h⟩ := bind_eq_ok.1 h
  obtain ⟨t, -, h⟩ := bind_eq_ok.1 h
  cases h
  rfl

theorem mergeKey_of_merge (h : a.merge b = .ok m) : m.mergeKey = a.mergeKey :=
  mergeKey_of_join (merge_eq_ok_iff.1 h).2

theorem merge_left_eq_ok_iff : (do (← a.merge b).merge c) = .ok m ↔
    (a.joins b = true ∧ b.joins c = true) ∧ (do (← a.join b).join c) = .ok m := by
  rw [bind_eq_ok, bind_eq_ok]
  constructor
  · rintro ⟨ab, hab, hm⟩
    obtain ⟨hj, hab'⟩ := merge_eq_ok_iff.1 hab
    obtain ⟨hjc, hm'⟩ := merge_eq_ok_iff.1 hm
    rw [joins_congr (mergeKey_of_merge hab)] at hjc
    exact ⟨⟨hj, joins_trans (joins_comm b a ▸ hj) hjc⟩, ab, hab', hm'⟩
  · rintro ⟨⟨hj, hjc⟩, ab, hab, hm⟩
    refine ⟨ab, merge_eq_ok_iff.2 ⟨hj, hab⟩, merge_eq_ok_iff.2 ⟨?_, hm⟩⟩
    rw [joins_congr (mergeKey_of_join hab)]
    exact joins_trans hj hjc

theorem merge_right_eq_ok_iff : (do a.merge (← b.merge c)) = .ok m ↔
    (a.joins b = true ∧ b.joins c = true) ∧ (do a.join (← b.join c)) = .ok m := by
  rw [bind_eq_ok, bind_eq_ok]
  constructor
  · rintro ⟨bc, hbc, hm⟩
    obtain ⟨hj, hbc'⟩ := merge_eq_ok_iff.1 hbc
    obtain ⟨hja, hm'⟩ := merge_eq_ok_iff.1 hm
    rw [joins_comm, joins_congr (mergeKey_of_merge hbc), joins_comm] at hja
    exact ⟨⟨hja, hj⟩, bc, hbc', hm'⟩
  · rintro ⟨⟨hj, hjc⟩, bc, hbc, hm⟩
    refine ⟨bc, merge_eq_ok_iff.2 ⟨hjc, hbc⟩, merge_eq_ok_iff.2 ⟨?_, hm⟩⟩
    rw [joins_comm, joins_congr (mergeKey_of_join hbc), joins_comm]
    exact hj

/-- Both bracketings of a merge give one answer, if any. -/
theorem merge_bracketing (ha : ∀ r ∈ a.result, r.IsPlain) (hb : ∀ r ∈ b.result, r.IsPlain)
    (hc : ∀ r ∈ c.result, r.IsPlain) :
    (do (← a.merge b).merge c) = .ok m ↔ (do a.merge (← b.merge c)) = .ok m := by
  rw [merge_left_eq_ok_iff, merge_right_eq_ok_iff, join_assoc ha hb hc]

/-- **Merging is associative.** Either both bracketings fail, or both give one and the same
observation: the first one with the samples of all three in their order, under the first unit that
says something, without an explicit time and with the latest result time. -/
theorem merge_assoc (ha : ∀ r ∈ a.result, r.IsPlain) (hb : ∀ r ∈ b.result, r.IsPlain)
    (hc : ∀ r ∈ c.result, r.IsPlain) :
    (∀ m, (do (← a.merge b).merge c) = .ok m ↔ (do a.merge (← b.merge c)) = .ok m) ∧
    ∀ m, (do (← a.merge b).merge c) = .ok m → ∃ s t,
      m = { a with result := some (.multi (some s) none), resultTime := t } ∧
      s = ((contribution a.result).combine (contribution b.result)).combine
        (contribution c.result) ∧
      (do Instant.latest (← Instant.latest a.resultTime b.resultTime) c.resultTime) = .ok t := by
  refine ⟨fun m => merge_bracketing ha hb hc, fun m h => ?_⟩
  have h := (merge_left_eq_ok_iff.1 h).2
  simp only [join_eq ha hb, join_eq (plain_withSeries _ _ _) hc, bind_assoc, pure_bind] at h
  obtain ⟨t, ht, h⟩ := bind_eq_ok.1 h
  obtain ⟨u, hu, h⟩ := bind_eq_ok.1 h
  cases h
  exact ⟨_, u, rfl, rfl, bind_eq_ok.2 ⟨t, ht, hu⟩⟩

/-- A placeholder merged with what two counts give brings in its unit and no sample. -/
theorem merge_assoc_counted :
    (do
      let unitOnly : Result := .single ⟨none, some (.nil (.ofText "1"))⟩
      let counts ← (counted "a" 1).merge (counted "a" 2)
      merge { counted "a" 0 with result := some unitOnly } counts) =
    .ok { counted "a" 0 with
      result := some (.ofSeries ⟨.ofText "1", [countSample 1, countSample 2]⟩) } := by
  refine ((merge_assoc ?_ (isPlain_counted "a" 1).result (isPlain_counted "a" 2).result).1 _).1 rfl
  rintro r ⟨⟩ v ⟨⟩
  trivial

end SensorSeries.Observation
