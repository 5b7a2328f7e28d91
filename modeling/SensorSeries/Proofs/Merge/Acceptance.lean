import SensorSeries.Proofs.Merge.Associativity

/-!
# Acceptance

An observation accepts another if the other can be merged into it. The checks stop at the first
condition that fails and look at some of the conditions from one side only, yet acceptance is
symmetric and transitive, since it is agreement on a key (`canMerge_eq_ok_true_iff`). It is not
reflexive: what has no key accepts nothing, not even itself. Merging keeps the key of the first
observation, which is that of the second, so whatever accepts one of the three accepts the others.
Hence a list of groups that do not accept each other has at most one place for a further observation.
-/

namespace SensorSeries

namespace Observation

variable {a b c m : Observation} {reason : Refusal}

/-! ## Acceptance as agreement -/

theorem canMerge_eq_ok_true_iff : a.canMerge b = .ok true ↔ a.joins b = true := by
  rw [← refusal_eq_ok_none_iff, canMerge, bind_eq_ok]
  simp

theorem canMerge_eq_ok_false_iff :
    a.canMerge b = .ok false ↔ ∃ reason, a.refusal b = .ok (some reason) := by
  rw [canMerge, bind_eq_ok]
  constructor
  · intro ⟨r, hr, hnone⟩
    cases r with
    | none => cases hnone
    | some reason => exact ⟨reason, hr⟩
  · intro ⟨reason, hr⟩
    exact ⟨some reason, hr, rfl⟩

theorem constellation_of_joins (h : a.joins b = true) :
    ∀ s ∈ a.constellation, ∃ k, s = .constellation k := by
  obtain ⟨k, ha, -⟩ := joins_iff.1 h
  intro s hs
  cases s with
  | constellation k => exact ⟨k, rfl⟩
  | other d mark =>
    rw [Option.mem_def] at hs
    simp [mergeKey, hs] at ha

/-- What an observation that joins another answers, the other answers as well. -/
theorem canMerge_of_joins (h : a.joins b = true) (c : Observation) :
    a.canMerge c = .ok (a.joins c) ∧ b.canMerge c = .ok (a.joins c) := by
  obtain ⟨k, ha, hb⟩ := joins_iff.1 h
  rw [canMerge_eq_ok (constellation_of_joins h),
    canMerge_eq_ok (constellation_of_joins (joins_comm a b ▸ h)), joins_congr (hb.trans ha.symm)]
  exact ⟨rfl, rfl⟩

/-- An observation accepts itself if its constellation has a type that allows merging. -/
theorem joins_self_iff : a.joins a = true ↔ ∃ k t, a.constellation = some (.constellation k) ∧
    k.observationType = some t ∧ t ≠ "" ∧ t ∉ Vocabulary.recordTypes := by
  have hkey : a.joins a = true ↔ ∃ k, a.constellation = some (.constellation k) ∧
      k.isMergeable = true := by
    rcases hc : a.constellation with _ | k | ⟨d, mark⟩
    · simp [joins, mergeKey, hc]
    · cases hk : k.isMergeable <;> simp [joins, mergeKey, hc, hk]
    · simp [joins, mergeKey, hc]
  have htype (k : Constellation) : k.isMergeable = true ↔
      ∃ t, k.observationType = some t ∧ t ≠ "" ∧ t ∉ Vocabulary.recordTypes := by
    unfold Constellation.isMergeable
    cases k.observationType <;> simp
  rw [hkey]
  simp only [htype, exists_and_left]

/-! ## Refused merges -/

section Refused

variable {α β : Type}

/-- An answer that is no refusal to merge. -/
def NeverRefused (x : Except Failure α) : Prop := ∀ reason, x ≠ .error (.notMergeable reason)

theorem NeverRefused.bind {x : Except Failure α} {f : α → Except Failure β} (hx : NeverRefused x)
    (hf : ∀ a, NeverRefused (f a)) : NeverRefused (x >>= f) := by
  intro reason h
  rcases bind_eq_error.1 h with h | ⟨a, -, h⟩
  · exact hx reason h
  · exact hf a reason h

theorem neverRefused_ok (a : α) : NeverRefused (.ok a) := nofun

theorem neverRefused_unit (r : Result) : NeverRefused r.unit := by
  rcases r with ⟨t, _ | v⟩ | ⟨series, time⟩ | d
  · nofun
  · cases v <;> nofun
  · nofun
  · nofun

theorem neverRefused_append (s : Series) (r : Option Result) : NeverRefused (s.append r) := by
  have hadopt (s : Series) (r : Result) : NeverRefused (s.adoptUnitOf r) := by
    unfold Series.adoptUnitOf
    split
    · nofun
    · exact (neverRefused_unit r).bind fun u => neverRefused_ok _
  rcases r with _ | sample | ⟨series, time⟩ | d
  · nofun
  · exact hadopt _ _
  · exact hadopt _ _
  · nofun

theorem neverRefused_startingWith (r : Option Result) : NeverRefused (Series.startingWith r) := by
  have hsingle (sample : Sample) : NeverRefused (Result.toSeries (some (.single sample))) :=
    (neverRefused_unit _).bind fun u => neverRefused_ok _
  rcases r with _ | ⟨t, _ | v⟩ | ⟨series, time⟩ | d
  · nofun
  · exact hsingle _
  · cases v with
    | nil unit => nofun
    | component | geometry | other => exact hsingle _
  · nofun
  · nofun

/-- The checks tell a refusal as their answer; they do not fail with it. -/
theorem neverRefused_refusal (a b : Observation) : NeverRefused (a.refusal b) := by
  have hasConstellation (s : Affiliation) : NeverRefused s.asConstellation := by
    cases s <;> nofun
  unfold refusal
  split
  · split
    · nofun
    · exact (hasConstellation _).bind fun k => neverRefused_ok _
  · nofun

theorem neverRefused_join (a b : Observation) : NeverRefused (a.join b) := by
  have hlatest : NeverRefused (Instant.latest a.resultTime b.resultTime) := by
    rw [Instant.latest_eq]
    split <;> nofun
  apply NeverRefused.bind
  · exact (neverRefused_startingWith _).bind fun s => neverRefused_append s _
  · intro s
    exact hlatest.bind fun t => neverRefused_ok _

end Refused

/-- A merge is refused for the reason that the checks give, and for no other. -/
theorem merge_eq_refused_iff :
    a.merge b = .error (.notMergeable reason) ↔ a.refusal b = .ok (some reason) := by
  rw [merge, bind_eq_error]
  constructor
  · intro h
    rcases h with h | ⟨r, hr, h⟩
    · exact absurd h (neverRefused_refusal a b reason)
    · cases r with
      | none => exact absurd h (neverRefused_join a b reason)
      | some reason' =>
        cases h
        exact hr
  · intro h
    exact .inr ⟨_, h, rfl⟩

theorem refused_iff : (∃ reason, a.merge b = .error (.notMergeable reason)) ↔
    a.canMerge b = .ok false := by
  rw [canMerge_eq_ok_false_iff]
  exact exists_congr fun reason => merge_eq_refused_iff

/-! ## Groups that do not accept each other -/

/-- At most one of them accepts a further observation. -/
theorem eq_of_accepts {os : List Observation} (hos : os.Pairwise fun x y => ¬ x.joins y = true)
    {i j : Nat} {x y : Observation} (hi : os[i]? = some x) (hj : os[j]? = some y)
    (hx : x.joins c = true) (hy : y.joins c = true) : i = j := by
  have hxy : x.joins y = true := joins_trans hx (joins_comm y c ▸ hy)
  obtain ⟨hilt, rfl⟩ := List.getElem?_eq_some_iff.1 hi
  obtain ⟨hjlt, rfl⟩ := List.getElem?_eq_some_iff.1 hj
  rw [List.pairwise_iff_getElem] at hos
  rcases Nat.lt_trichotomy i j with hlt | heq | hlt
  · exact absurd hxy (hos i j hilt hjlt hlt)
  · exact heq
  · rw [joins_comm] at hxy
    exact absurd hxy (hos j i hjlt hilt hlt)

/-- **Acceptance is a partial equivalence that merging respects.** Observations with real or missing
constellations always give an answer, and the same one in both directions. Acceptance is symmetric and
transitive; an observation accepts itself if its constellation has a type that is set and none of the
record types. What two observations are merged to answers every other one as the two do. A merge is
refused exactly if the second is not accepted by the first. Of observations that do not accept each
other at most one, counted by its place, accepts a further observation. -/
theorem canMerge_partial_equivalence (a b c : Observation) :
    ((∀ s ∈ a.constellation, ∃ k, s = .constellation k) →
      (∀ s ∈ b.constellation, ∃ k, s = .constellation k) →
      ∃ r, a.canMerge b = .ok r ∧ b.canMerge a = .ok r) ∧
    (a.canMerge b = .ok true → b.canMerge a = .ok true) ∧
    (a.canMerge b = .ok true → b.canMerge c = .ok true → a.canMerge c = .ok true) ∧
    (a.canMerge a = .ok true ↔ ∃ k t, a.constellation = some (.constellation k) ∧
      k.observationType = some t ∧ t ≠ "" ∧ t ∉ Vocabulary.recordTypes) ∧
    (∀ m, a.merge b = .ok m →
      ∃ r, m.canMerge c = .ok r ∧ a.canMerge c = .ok r ∧ b.canMerge c = .ok r) ∧
    ((∃ reason, a.merge b = .error (.notMergeable reason)) ↔ a.canMerge b = .ok false) ∧
    (∀ os : List Observation, os.Pairwise (fun x y => x.canMerge y ≠ .ok true) →
      ∀ (i j : Nat) (x y : Observation), os[i]? = some x → os[j]? = some y →
        x.canMerge c = .ok true → y.canMerge c = .ok true → i = j) := by
  simp only [ne_eq, canMerge_eq_ok_true_iff]
  refine ⟨?_, ?_, joins_trans, joins_self_iff, ?_, refused_iff, ?_⟩
  · intro ha hb
    rw [canMerge_eq_ok ha, canMerge_eq_ok hb, joins_comm b a]
    exact ⟨_, rfl, rfl⟩
  · intro h
    exact joins_comm a b ▸ h
  · intro m hm
    have hab := (merge_eq_ok_iff.1 hm).1
    have hma : m.joins a = true := by
      rw [joins_congr (mergeKey_of_merge hm)]
      exact joins_trans hab (joins_comm a b ▸ hab)
    obtain ⟨hm, ha⟩ := canMerge_of_joins hma c
    obtain ⟨-, hb⟩ := canMerge_of_joins (joins_trans hma hab) c
    exact ⟨_, hm, ha, hb⟩
  · intro os hos i j x y hi hj hx hy
    exact eq_of_accepts hos hi hj hx hy

/-- Counts of one group, merged or not, give one answer; those of two groups are refused, and
a further count has one place among the two groups. -/
theorem canMerge_partial_equivalence_counted :
    (counted "a" 1).merge (counted "a" 2) = .ok (countedAll "a" [1, 2]) ∧
    (∃ r, (countedAll "a" [1, 2]).canMerge (counted "b" 3) = .ok r ∧
      (counted "a" 1).canMerge (counted "b" 3) = .ok r ∧
      (counted "a" 2).canMerge (counted "b" 3) = .ok r) ∧
    (∃ reason, (counted "a" 2).merge (counted "b" 3) = .error (.notMergeable reason)) ∧
    ∀ (i j : Nat) (x y : Observation), [counted "a" 1, counted "b" 2][i]? = some x →
      [counted "a" 1, counted "b" 2][j]? = some y →
      x.canMerge (counted "b" 3) = .ok true → y.canMerge (counted "b" 3) = .ok true → i = j := by
  have hmerge : (counted "a" 1).merge (counted "a" 2) = .ok (countedAll "a" [1, 2]) := rfl
  have hapart (n m : Int) : (counted "a" n).canMerge (counted "b" m) = .ok false := by
    rw [canMerge_eq_ok (isPlain_counted "a" n).constellation, joins_counted]
    rfl
  obtain ⟨-, -, -, -, hall, -, -⟩ :=
    canMerge_partial_equivalence (counted "a" 1) (counted "a" 2) (counted "b" 3)
  obtain ⟨-, -, -, -, -, hrefused, hplaces⟩ :=
    canMerge_partial_equivalence (counted "a" 2) (counted "b" 3) (counted "b" 3)
  refine ⟨hmerge, hall _ hmerge, hrefused.2 (hapart 2 3), hplaces _ ?_⟩
  simp [hapart]

end Observation

end SensorSeries
