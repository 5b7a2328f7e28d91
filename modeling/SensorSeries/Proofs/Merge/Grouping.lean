import Mathlib.Data.List.Forall2
import Mathlib.Data.List.Induction
import SensorSeries.Proofs.Merge.Placing

/-!
# Merging a list is folding its groups

`groupsOf` sorts a list of observations into groups: the first observation with all that join it,
then the groups of the rest. `mergeGroup` folds `merge` over a group from the left.
`mergeAll_eq_ok_iff` tells that `mergeAll` gives these folds, one for each group and in the order of
their first members, and that it fails exactly if one of them does. The induction is on the list
from its end: one observation more belongs to the first group whose first member it joins
(`groupsOf_append_singleton`), and merging never changes which observations a group takes.
-/

namespace SensorSeries

/-! ## Lists of answers -/

section Lists

variable {α β : Type} {f : α → Option β}

theorem mapM_cons_eq (f : α → Option β) (x : α) (xs : List α) :
    (x :: xs).mapM f = (f x).bind fun y => (xs.mapM f).map (y :: ·) := by
  rw [List.mapM_cons]
  cases f x <;> cases xs.mapM f <;> rfl

theorem mapM_eq_some_iff {xs : List α} {ys : List β} :
    xs.mapM f = some ys ↔ List.Forall₂ (fun x y => f x = some y) xs ys := by
  induction xs generalizing ys with
  | nil => simp [eq_comm]
  | cons x xs ih =>
    rw [mapM_cons_eq, List.forall₂_cons_left_iff, Option.bind_eq_some_iff]
    simp only [Option.map_eq_some_iff, ih]
    constructor
    · rintro ⟨y, hy, rest, hrest, rfl⟩
      exact ⟨y, rest, hy, hrest, rfl⟩
    · rintro ⟨y, rest, hy, hrest, rfl⟩
      exact ⟨y, hy, rest, hrest, rfl⟩

theorem mapM_eq_none_iff {xs : List α} : xs.mapM f = none ↔ ∃ x ∈ xs, f x = none := by
  induction xs with
  | nil => simp
  | cons x xs ih =>
    cases hx : f x <;> cases hxs : xs.mapM f <;> simp_all

end Lists

namespace Observation

/-- The groups of a list in the order of their first members, each with its later members in the
order of the list. -/
def groupsOf : List Observation → List (Observation × List Observation)
  | [] => []
  | o :: os => (o, os.filter (o.joins ·)) :: groupsOf (os.filter (!o.joins ·))
termination_by os => os.length
decreasing_by
  rw [List.length_unattach, List.length_cons, Nat.lt_succ_iff]
  exact Nat.le_trans (List.length_filter_le _ _) (Nat.le_of_eq List.length_attach)

/-- The first member of a group with all later ones merged into it, one after the other. -/
def mergeGroup (g : Observation × List Observation) : Except Failure Observation :=
  g.2.foldlM merge g.1

/-- Adds an observation to the first group whose first member it joins, or lets it begin one. -/
def addMember (o : Observation) :
    List (Observation × List Observation) → List (Observation × List Observation)
  | [] => [(o, [])]
  | g :: gs => if g.1.joins o then (g.1, g.2 ++ [o]) :: gs else g :: addMember o gs

variable {o m : Observation} {os ms : List Observation}
  {g : Observation × List Observation} {gs : List (Observation × List Observation)}

theorem groupsOf_append_singleton (os : List Observation) (o : Observation) :
    groupsOf (os ++ [o]) = addMember o (groupsOf os) := by
  -- On the length: the groups after the first come from a filtered list, no part of the list.
  induction hn : os.length using Nat.strongRecOn generalizing os with
  | ind n ih =>
    cases os with
    | nil => simp [groupsOf, addMember]
    | cons p os =>
      rw [List.cons_append, groupsOf, groupsOf, addMember, List.filter_append, List.filter_append]
      cases hj : p.joins o with
      | true => simp [hj]
      | false =>
        have hlt : (os.filter (!p.joins ·)).length < n := by
          rw [← hn, List.length_cons, Nat.lt_succ_iff]
          exact List.length_filter_le _ os
        simpa [hj] using ih _ hlt (os.filter (!p.joins ·)) rfl

/-! ## Folds -/

theorem mergeGroup_append (g : Observation × List Observation) (o : Observation) :
    mergeGroup (g.1, g.2 ++ [o]) = (do (← mergeGroup g).merge o) := by
  simp only [mergeGroup, List.foldlM_append, List.foldlM_cons, List.foldlM_nil, bind_pure]

theorem mergeKey_of_mergeGroup (h : mergeGroup g = .ok m) : m.mergeKey = g.1.mergeKey := by
  obtain ⟨o, os⟩ := g
  induction os generalizing o with
  | nil =>
    cases h
    rfl
  | cons p os ih =>
    obtain ⟨n, hn, h⟩ := bind_eq_ok.1 h
    exact (ih n h).trans (mergeKey_of_merge hn)

/-- One step: placing an observation among the merged groups merges it into its own group. -/
theorem mapM_addMember (gs : List (Observation × List Observation)) (o : Observation) :
    (addMember o gs).mapM (fun g => (mergeGroup g).toOption) =
      (gs.mapM fun g => (mergeGroup g).toOption).bind (place? o) := by
  induction gs with
  | nil => rfl
  | cons g gs ih =>
    cases hm : mergeGroup g with
    | error e => cases hj : g.1.joins o <;> simp [addMember, hj, mergeGroup_append, hm]
    | ok m =>
      have hkey := joins_congr (mergeKey_of_mergeGroup hm) o
      cases hj : g.1.joins o with
      | true =>
        simp only [addMember, hj, mergeGroup_append, hm, mapM_cons_eq, ok_bind, toOption_ok,
          Option.bind_some, ↓reduceIte]
        cases gs.mapM fun g => (mergeGroup g).toOption with
        | none => cases m.merge o <;> rfl
        | some ms =>
          rw [Option.map_some, Option.bind_some, place?_cons_joins (hkey.trans hj), merge?]
          cases m.merge o <;> rfl
      | false =>
        simp only [addMember, hj, hm, mapM_cons_eq, ih, toOption_ok, Option.bind_some,
          Bool.false_eq_true, ↓reduceIte]
        cases gs.mapM fun g => (mergeGroup g).toOption with
        | none => rfl
        | some ms => exact (place?_cons_apart (hkey.trans hj) ms).symm

theorem placeAll?_eq_mapM (os : List Observation) :
    placeAll? [] os = (groupsOf os).mapM fun g => (mergeGroup g).toOption := by
  induction os using List.reverseRecOn with
  | nil => simp [groupsOf]
  | append_singleton os o ih =>
    rw [placeAll?_concat, ih, groupsOf_append_singleton, mapM_addMember]

/-- **Merging a list gives one observation for each group**, in the order of their first members:
the members of the group merged from the left, the observation itself if it is the only one. The
list fails to merge exactly if a group does. -/
theorem mergeAll_eq_ok_iff (hos : ∀ o ∈ os, o.IsPlain) :
    (∀ ms, mergeAll os = .ok ms ↔
      List.Forall₂ (fun g m => mergeGroup g = .ok m) (groupsOf os) ms) ∧
    ((∃ e, mergeAll os = .error e) ↔ ∃ g ∈ groupsOf os, ∃ e, mergeGroup g = .error e) := by
  have h : (mergeAll os).toOption = (groupsOf os).mapM fun g => (mergeGroup g).toOption :=
    (mergeAll_eq_placeAll hos).trans (placeAll?_eq_mapM os)
  constructor
  · intro ms
    rw [← toOption_eq_some, h, mapM_eq_some_iff]
    simp only [toOption_eq_some]
  · rw [← toOption_eq_none, h, mapM_eq_none_iff]
    simp only [toOption_eq_none]

/-- Two groups, one taking turns with the other. -/
theorem mergeAll_counted :
    mergeAll [counted "a" 1, counted "b" 2, counted "a" 3, counted "a" 4] =
      .ok [countedAll "a" [1, 3, 4], counted "b" 2] := by
  have hos : ∀ o ∈ [counted "a" 1, counted "b" 2, counted "a" 3, counted "a" 4], o.IsPlain := by
    simp [isPlain_counted]
  have hgroups : groupsOf [counted "a" 1, counted "b" 2, counted "a" 3, counted "a" 4] =
      [(counted "a" 1, [counted "a" 3, counted "a" 4]), (counted "b" 2, [])] := by
    simp [groupsOf, joins_counted]
  refine ((mergeAll_eq_ok_iff hos).1 _).2 ?_
  rw [hgroups]
  exact .cons rfl (.cons rfl .nil)

end Observation

end SensorSeries
