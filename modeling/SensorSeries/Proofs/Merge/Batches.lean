import Mathlib.Data.List.Induction
import SensorSeries.Proofs.Merge.Placing

/-!
# Merging in batches

A list may be cut anywhere and its parts merged separately: merging the results gives what merging
the list gives (`mergeAll_append_iff`). No two observations of a result belong to one group
(`Apart.placeAll?`), so merging it again changes nothing.

The step behind this is `placeAll?_place?`: placing an observation behind others, and then all of
them among further ones, is placing the others first and then this one. Where the observation joins
one of the others, associativity of merging moves it past the merge (`place?_of_joins`). All steps
in between concern other groups and commute (`place?_comm`).
-/

namespace SensorSeries.Observation

variable {a b c g o p : Observation} {acc ms os xs ys : List Observation}

theorem merge?_assoc (ha : a.IsPlain) (hb : b.IsPlain) (hc : c.IsPlain) :
    (a.merge? b).bind (·.merge? c) = (b.merge? c).bind (a.merge? ·) := by
  unfold merge?
  rw [← toOption_bind, ← toOption_bind, toOption_eq_iff]
  exact fun m => merge_bracketing ha.result hb.result hc.result

theorem joins_merge? (h : a.merge? b = some c) (o : Observation) : c.joins o = a.joins o :=
  joins_congr (mergeKey_of_merge? h) o

theorem joins_left (hab : a.joins b = true) (c : Observation) : a.joins c = b.joins c := by
  obtain ⟨k, ha, hb⟩ := joins_iff.1 hab
  exact joins_congr (ha.trans hb.symm) c

/-! ## One observation -/

/-- An observation that has been placed has brought its group along. -/
theorem exists_joins_of_place? (hj : o.joins p = true) (h : place? o acc = some ms) :
    ∃ g ∈ ms, g.joins p = true := by
  obtain ⟨rfl, -⟩ | ⟨before, g, after, m, rfl, hgo, hm, rfl⟩ := place?_cases h
  · exact ⟨o, by simp, hj⟩
  · refine ⟨m, by simp, ?_⟩
    rw [joins_merge? hm]
    exact joins_trans hgo hj

/-- A group that is there stays there. -/
theorem exists_joins_place? (hacc : ∃ g ∈ acc, g.joins p = true) (h : place? o acc = some ms) :
    ∃ g ∈ ms, g.joins p = true := by
  obtain ⟨q, hq, hqp⟩ := hacc
  obtain ⟨rfl, -⟩ | ⟨before, g, after, m, rfl, -, hm, rfl⟩ := place?_cases h
  · exact ⟨q, List.mem_append_left _ hq, hqp⟩
  · by_cases hqg : q = g
    · subst hqg
      exact ⟨m, by simp, (joins_merge? hm p).trans hqp⟩
    · refine ⟨q, ?_, hqp⟩
      simp only [List.mem_append, List.mem_cons, hqg, false_or] at hq ⊢
      exact hq.imp_right .inr

/-- An observation passes a group that it does not join. -/
theorem bind_place?_apart (h : g.joins p = false) (ms : Option (List Observation)) :
    (ms.map (g :: ·)).bind (place? p) = (ms.bind (place? p)).map (g :: ·) := by
  rw [Option.bind_map, Option.map_bind]
  exact Option.bind_congr fun ms _ => place?_cons_apart h ms

/-- Observations of a group at hand and of another one may be placed in either order. -/
theorem bind_place?_merge? (ho : g.joins o = true) (hp : g.joins p = false)
    (rest : List Observation) :
    ((g.merge? o).map (· :: rest)).bind (place? p) =
      ((place? p rest).map (g :: ·)).bind (place? o) := by
  rw [Option.bind_map, Option.bind_map]
  calc (g.merge? o).bind (place? p ∘ (· :: rest))
      = (g.merge? o).bind fun m => (place? p rest).map (m :: ·) :=
        Option.bind_congr fun m hm => place?_cons_apart ((joins_merge? hm p).trans hp) rest
    _ = (place? p rest).bind fun ms => (g.merge? o).map (· :: ms) := by
        cases g.merge? o <;> cases place? p rest <;> rfl
    _ = (place? p rest).bind (place? o ∘ (g :: ·)) :=
        Option.bind_congr fun ms _ => (place?_cons_joins ho ms).symm

/-- Two observations of one group: the second may be merged into the first beforehand. -/
theorem place?_of_joins (hacc : ∀ g ∈ acc, g.IsPlain) (ho : o.IsPlain) (hp : p.IsPlain)
    (hj : o.joins p = true) :
    (place? o acc).bind (place? p) = (o.merge? p).bind fun m => place? m acc := by
  induction acc with
  | nil =>
    rw [place?, Option.bind_some, place?_cons_joins hj]
    cases o.merge? p <;> rfl
  | cons g rest ih =>
    obtain ⟨hg, hrest⟩ := List.forall_mem_cons.1 hacc
    have hmerged {m : Observation} (hm : o.merge? p = some m) : g.joins m = g.joins o := by
      rw [joins_comm, joins_merge? hm, joins_comm]
    cases hgo : g.joins o with
    | true =>
      calc (place? o (g :: rest)).bind (place? p)
          = (g.merge? o).bind fun m => (m.merge? p).map (· :: rest) := by
            rw [place?_cons_joins hgo, Option.bind_map]
            refine Option.bind_congr fun m hm => place?_cons_joins ?_ rest
            rw [joins_merge? hm]
            exact joins_trans hgo hj
        _ = ((g.merge? o).bind (·.merge? p)).map (· :: rest) := Option.map_bind.symm
        _ = ((o.merge? p).bind (g.merge? ·)).map (· :: rest) := by rw [merge?_assoc hg ho hp]
        _ = (o.merge? p).bind fun m => (g.merge? m).map (· :: rest) := Option.map_bind
        _ = (o.merge? p).bind fun m => place? m (g :: rest) := by
            refine Option.bind_congr fun m hm => (place?_cons_joins ?_ rest).symm
            rw [hmerged hm, hgo]
    | false =>
      have hgp : g.joins p = false := by
        rw [joins_comm, ← joins_left hj, joins_comm, hgo]
      calc (place? o (g :: rest)).bind (place? p)
          = ((o.merge? p).bind fun m => place? m rest).map (g :: ·) := by
            rw [place?_cons_apart hgo, bind_place?_apart hgp, ih hrest]
        _ = (o.merge? p).bind fun m => place? m (g :: rest) := by
            rw [Option.map_bind]
            refine Option.bind_congr fun m hm => (place?_cons_apart ?_ rest).symm
            rw [hmerged hm, hgo]

/-- Observations of different groups may be placed in either order, if the group of one of them is
there already. -/
theorem place?_comm (hacc : ∃ g ∈ acc, g.joins p = true) (hj : o.joins p = false) :
    (place? o acc).bind (place? p) = (place? p acc).bind (place? o) := by
  -- If `p` had no group yet, both might be put behind the list, and their order would show.
  induction acc with
  | nil =>
    obtain ⟨g, hg, -⟩ := hacc
    cases hg
  | cons g rest ih =>
    cases hgp : g.joins p with
    | true =>
      have hgo : g.joins o = false := by rw [joins_left hgp, joins_comm, hj]
      rw [place?_cons_apart hgo, place?_cons_joins hgp]
      exact (bind_place?_merge? hgp hgo rest).symm
    | false =>
      have hrest : ∃ q ∈ rest, q.joins p = true := by
        obtain ⟨q, hq, hqp⟩ := hacc
        refine ⟨q, (List.mem_cons.1 hq).resolve_left ?_, hqp⟩
        rintro rfl
        exact Bool.false_ne_true (hgp.symm.trans hqp)
      rw [place?_cons_apart hgp]
      cases hgo : g.joins o with
      | true =>
        rw [place?_cons_joins hgo]
        exact bind_place?_merge? hgo hgp rest
      | false =>
        rw [place?_cons_apart hgo, bind_place?_apart hgp, bind_place?_apart hgo, ih hrest]

/-! ## Many observations -/

/-- Observations no two of which belong to one group. -/
def Apart (ms : List Observation) : Prop := ms.Pairwise fun a b => a.joins b = false

theorem Apart.place? (hacc : Apart acc) (h : place? o acc = some ms) : Apart ms := by
  obtain ⟨rfl, hapart⟩ | ⟨before, g, after, m, rfl, -, hm, rfl⟩ := place?_cases h
  · exact List.pairwise_append.2 ⟨hacc, List.pairwise_singleton _ _, by simpa using hapart⟩
  · have hjoins : ∀ p : Observation, p.joins m = p.joins g := fun p => by
      rw [joins_comm, joins_merge? hm, joins_comm]
    unfold Apart at hacc ⊢
    rw [List.pairwise_append, List.pairwise_cons] at hacc ⊢
    obtain ⟨hbefore, ⟨hg, hafter⟩, hcross⟩ := hacc
    refine ⟨hbefore, ⟨fun p hp => (joins_merge? hm p).trans (hg p hp), hafter⟩, fun p hp q hq => ?_⟩
    rcases List.mem_cons.1 hq with rfl | hq
    · exact (hjoins p).trans (hcross p hp g List.mem_cons_self)
    · exact hcross p hp q (List.mem_cons_of_mem _ hq)

theorem Apart.placeAll? (hacc : Apart acc) (h : placeAll? acc os = some ms) : Apart ms := by
  induction os generalizing acc with
  | nil =>
    cases h
    exact hacc
  | cons o os ih =>
    obtain ⟨acc', hplace, h⟩ := Option.bind_eq_some_iff.1 h
    exact ih (hacc.place? hplace) h

/-- An observation that joins none of the others is put behind them. -/
theorem place?_of_forall_apart (h : ∀ g ∈ acc, g.joins o = false) :
    place? o acc = some (acc ++ [o]) := by
  induction acc with
  | nil => rfl
  | cons g rest ih =>
    obtain ⟨hg, hrest⟩ := List.forall_mem_cons.1 h
    rw [place?_cons_apart hg, ih hrest]
    rfl

/-- Observations of as many groups stay as they are. -/
theorem placeAll?_of_apart (h : Apart (acc ++ ms)) : placeAll? acc ms = some (acc ++ ms) := by
  induction ms generalizing acc with
  | nil => rw [placeAll?_nil, List.append_nil]
  | cons o ms ih =>
    have hplace : ∀ g ∈ acc, g.joins o = false := fun g hg =>
      (List.pairwise_append.1 h).2.2 g hg o List.mem_cons_self
    rw [List.append_cons] at h ⊢
    rw [placeAll?_cons, place?_of_forall_apart hplace, Option.bind_some, ih h]

/-- Placing an observation of a known group before some of other groups or after them is one. -/
theorem placeAll?_comm (hacc : ∃ g ∈ acc, g.joins p = true) (hos : ∀ o ∈ os, o.joins p = false) :
    (placeAll? acc os).bind (place? p) = (place? p acc).bind fun acc => placeAll? acc os := by
  induction os generalizing acc with
  | nil => exact (Option.bind_fun_some _).symm
  | cons o os ih =>
    obtain ⟨ho, hos⟩ := List.forall_mem_cons.1 hos
    calc (placeAll? acc (o :: os)).bind (place? p)
        = (place? o acc).bind fun acc => (placeAll? acc os).bind (place? p) := by
          rw [placeAll?_cons, Option.bind_assoc]
      _ = (place? o acc).bind fun acc => (place? p acc).bind fun acc => placeAll? acc os :=
          Option.bind_congr fun acc' h => ih (exists_joins_place? hacc h) hos
      _ = ((place? p acc).bind (place? o)).bind fun acc => placeAll? acc os := by
          rw [← place?_comm hacc ho, Option.bind_assoc]
      _ = (place? p acc).bind fun acc => placeAll? acc (o :: os) := by
          rw [Option.bind_assoc]
          rfl

/-- Placing observations of different groups and then one more is placing what this one makes of
them. -/
theorem placeAll?_place? (hacc : ∀ g ∈ acc, g.IsPlain) (hms : ∀ o ∈ ms, o.IsPlain)
    (hapart : Apart ms) (hp : p.IsPlain) :
    (placeAll? acc ms).bind (place? p) = (place? p ms).bind fun ms => placeAll? acc ms := by
  induction ms generalizing acc with
  | nil =>
    rw [placeAll?_nil, Option.bind_some, place?, Option.bind_some, placeAll?_cons]
    exact (Option.bind_fun_some _).symm
  | cons g rest ih =>
    obtain ⟨hg, hrest⟩ := List.forall_mem_cons.1 hms
    obtain ⟨hgrest, hapart⟩ := List.pairwise_cons.1 hapart
    cases hj : g.joins p with
    | true =>
      -- `p` passes all members behind `g` and is merged into `g` before `g` is placed.
      have hothers : ∀ o ∈ rest, o.joins p = false := fun o ho => by
        rw [joins_comm, ← joins_left hj, hgrest o ho]
      calc (placeAll? acc (g :: rest)).bind (place? p)
          = (place? g acc).bind fun acc => (place? p acc).bind fun acc => placeAll? acc rest := by
            rw [placeAll?_cons, Option.bind_assoc]
            exact Option.bind_congr fun acc' h =>
              placeAll?_comm (exists_joins_of_place? hj h) hothers
        _ = ((g.merge? p).bind fun m => place? m acc).bind fun acc => placeAll? acc rest := by
            rw [← place?_of_joins hacc hg hp hj, Option.bind_assoc]
        _ = (place? p (g :: rest)).bind fun ms => placeAll? acc ms := by
            rw [place?_cons_joins hj, Option.bind_assoc, Option.bind_map]
            rfl
    | false =>
      calc (placeAll? acc (g :: rest)).bind (place? p)
          = (place? g acc).bind fun acc => (place? p rest).bind fun ms => placeAll? acc ms := by
            rw [placeAll?_cons, Option.bind_assoc]
            exact Option.bind_congr fun acc' h => ih (isPlain_of_place? hacc hg h) hrest hapart
        _ = (place? p rest).bind fun ms => (place? g acc).bind fun acc => placeAll? acc ms :=
            Option.bind_comm _ _
        _ = (place? p (g :: rest)).bind fun ms => placeAll? acc ms := by
            rw [place?_cons_apart hj, Option.bind_map]
            rfl

/-- A run from any observations on may place what the run alone makes of its observations. -/
theorem placeAll?_eq_bind (hacc : ∀ g ∈ acc, g.IsPlain) (hos : ∀ o ∈ os, o.IsPlain) :
    placeAll? acc os = (placeAll? [] os).bind fun ms => placeAll? acc ms := by
  induction os using List.reverseRecOn with
  | nil => rfl
  | append_singleton os p ih =>
    obtain ⟨hos, hp⟩ := List.forall_mem_append.1 hos
    have hp : p.IsPlain := by simpa using hp
    calc placeAll? acc (os ++ [p])
        = (placeAll? [] os).bind fun ms => (placeAll? acc ms).bind (place? p) := by
          rw [placeAll?_concat, ih hos, Option.bind_assoc]
      _ = (placeAll? [] os).bind fun ms => (place? p ms).bind fun ms => placeAll? acc ms :=
          Option.bind_congr fun ms h => placeAll?_place? hacc
            (isPlain_of_placeAll? (by simp) hos h) (Apart.placeAll? List.Pairwise.nil h) hp
      _ = (placeAll? [] (os ++ [p])).bind fun ms => placeAll? acc ms := by
          rw [placeAll?_concat, Option.bind_assoc]

/-! ## Merging lists -/

theorem mergeAll_eq_ok_iff_placeAll? (hos : ∀ o ∈ os, o.IsPlain) :
    mergeAll os = .ok ms ↔ placeAll? [] os = some ms := by
  rw [← mergeAll_eq_placeAll hos, toOption_eq_some]

/-- No two observations of a result can be merged with each other. -/
theorem pairwise_canMerge_of_placeAll? (hos : ∀ o ∈ os, o.IsPlain) (h : placeAll? [] os = some ms) :
    ms.Pairwise fun a b => a.canMerge b = .ok false ∧ b.canMerge a = .ok false := by
  have hms := isPlain_of_placeAll? (by simp) hos h
  refine (Apart.placeAll? List.Pairwise.nil h).imp_of_mem ?_
  intro a b ha hb hapart
  rw [canMerge_eq_ok (hms a ha).constellation, canMerge_eq_ok (hms b hb).constellation,
    joins_comm b a, hapart]
  exact ⟨rfl, rfl⟩

theorem toOption_mergeAll_append (hxs : ∀ o ∈ xs, o.IsPlain) (hys : ∀ o ∈ ys, o.IsPlain) :
    (mergeAll (xs ++ ys)).toOption =
      (do mergeAll ((← mergeAll xs) ++ (← mergeAll ys))).toOption := by
  have hmerged {as bs : List Observation} (has : placeAll? [] xs = some as)
      (hbs : placeAll? [] ys = some bs) : (mergeAll (as ++ bs)).toOption = placeAll? as bs := by
    have hplain := List.forall_mem_append.2 ⟨isPlain_of_placeAll? (by simp) hxs has,
      isPlain_of_placeAll? (by simp) hys hbs⟩
    have hapart : Apart ([] ++ as) := Apart.placeAll? List.Pairwise.nil has
    rw [mergeAll_eq_placeAll hplain, placeAll?_append, placeAll?_of_apart hapart]
    rfl
  calc (mergeAll (xs ++ ys)).toOption
      = (placeAll? [] xs).bind fun as => placeAll? as ys := by
        rw [mergeAll_eq_placeAll (List.forall_mem_append.2 ⟨hxs, hys⟩), placeAll?_append]
    _ = (placeAll? [] xs).bind fun as => (placeAll? [] ys).bind fun bs => placeAll? as bs :=
        Option.bind_congr fun as h => placeAll?_eq_bind (isPlain_of_placeAll? (by simp) hxs h) hys
    _ = (placeAll? [] xs).bind fun as => (placeAll? [] ys).bind fun bs =>
          (mergeAll (as ++ bs)).toOption :=
        Option.bind_congr fun as has => Option.bind_congr fun bs hbs => (hmerged has hbs).symm
    _ = _ := by
        simp only [toOption_bind, mergeAll_eq_placeAll hxs, mergeAll_eq_placeAll hys]

/-- **Batches can be merged separately.** Merging a list gives what merging the results of its parts
gives, or fails where that does. A result stays what it is when it is merged again, as no two
observations of it can be merged. -/
theorem mergeAll_append_iff (hxs : ∀ o ∈ xs, o.IsPlain) (hys : ∀ o ∈ ys, o.IsPlain) :
    (∀ ms, mergeAll (xs ++ ys) = .ok ms ↔
      (do mergeAll ((← mergeAll xs) ++ (← mergeAll ys))) = .ok ms) ∧
    ∀ ms, mergeAll xs = .ok ms →
      mergeAll ms = .ok ms ∧
      ms.Pairwise fun a b => a.canMerge b = .ok false ∧ b.canMerge a = .ok false := by
  refine ⟨toOption_eq_iff.1 (toOption_mergeAll_append hxs hys), fun ms h => ?_⟩
  rw [mergeAll_eq_ok_iff_placeAll? hxs] at h
  refine ⟨?_, pairwise_canMerge_of_placeAll? hxs h⟩
  have hapart : Apart ([] ++ ms) := Apart.placeAll? List.Pairwise.nil h
  rw [mergeAll_eq_ok_iff_placeAll? (isPlain_of_placeAll? (by simp) hxs h)]
  exact placeAll?_of_apart hapart

/-- Two batches that hold the groups in different orders. -/
theorem mergeAll_append_counted :
    (do mergeAll ((← mergeAll [counted "a" 1, counted "b" 2]) ++
      (← mergeAll [counted "b" 3, counted "b" 4, counted "a" 5]))) =
      .ok [countedAll "a" [1, 5], countedAll "b" [2, 3, 4]] := by
  have hxs : ∀ o ∈ [counted "a" 1, counted "b" 2], o.IsPlain := by simp [isPlain_counted]
  have hys : ∀ o ∈ [counted "b" 3, counted "b" 4, counted "a" 5], o.IsPlain := by
    simp [isPlain_counted]
  exact ((mergeAll_append_iff hxs hys).1 _).1 rfl

end SensorSeries.Observation
