import Mathlib.Logic.Function.Basic
import Mathlib.Order.Defs.Unbundled
import SensorSeries.Proofs.Time.Latest

/-!
# The latest of many result times

`Instant.latest` takes the instant of the higher standing, and the left one of two that stand alike.
Hence a list of result times has one latest instant, however they are put in brackets: the first
member that none of the others stands above (`IsFirstHighest`). There is a failure, with any
brackets, exactly when some clock in the list tells its distance from universal time and another one
does not (`MixesClocks`). The induction is on the brackets; what makes it work is that the highest
member of a list has a clock of the kind of all clocks in the list.

Among instants whose clocks can be compared, lying before each other is a strict weak order
(`isStrictWeakOrder_isBefore`). It is coarser than the order of standings, since it does not tell an
instant that counts from one that does not, if neither has a timestamp.
-/

namespace SensorSeries

namespace Standing

theorem below_irrefl (x : Standing) : x.below x = false := by
  cases x <;> simp [below]

theorem compares_self (x : Standing) : x.compares x = true := by
  cases x <;> simp [compares, Timestamp.comparable]

/-- What is not below a standing is below nothing that the standing is not below. -/
theorem below_of_not_below {x y z : Standing} (hxy : x.below y = false) (hxz : x.below z = true) :
    y.below z = true := by
  cases hyz : y.below z with
  | true => rfl
  | false =>
    rw [not_below_trans hxy hyz] at hxz
    exact hxz

instance : IsStrictWeakOrder Standing fun x y => x.below y = true where
  irrefl x := by simp [below_irrefl]
  trans _ _ _ := below_trans
  incomp_trans x y z hxy hyz := by
    simp only [Bool.not_eq_true] at hxy hyz ⊢
    exact ⟨not_below_trans hxy.1 hyz.1, not_below_trans hyz.2 hxy.2⟩

end Standing

namespace Instant

open Standing (of)

/-! ## Lying before -/

/-- The standing of an instant by its timestamp alone. -/
def datedStanding (i : Instant) : Standing :=
  match i.value with
  | some t => .dated t
  | none => .vague

theorem isBefore_eq_below (a b : Instant) :
    a.isBefore b = if a.datedStanding.compares b.datedStanding then
      .ok (a.datedStanding.below b.datedStanding) else .error .unorderable := by
  rcases a with ⟨_ | s, _, _⟩ <;> rcases b with ⟨_ | t, _, _⟩
  · rfl
  · rfl
  · rfl
  · exact Timestamp.ordered_before? s t

theorem datedStanding_compares {a b : Instant}
    (h : ∀ s ∈ a.value, ∀ t ∈ b.value, s.comparable t = true) :
    a.datedStanding.compares b.datedStanding = true := by
  rcases a with ⟨_ | s, _, _⟩ <;> rcases b with ⟨_ | t, _, _⟩
  · rfl
  · rfl
  · rfl
  · exact h s rfl t rfl

/-- Lying before each other is a strict weak order of instants whose clocks can be compared. -/
theorem isStrictWeakOrder_isBefore {P : Instant → Prop}
    (h : ∀ a b, P a → P b → a.datedStanding.compares b.datedStanding = true) :
    IsStrictWeakOrder {a // P a} fun a b => a.1.isBefore b.1 = .ok true := by
  have hbelow : (fun a b : {a // P a} => a.1.isBefore b.1 = .ok true) =
      Function.onFun (fun x y : Standing => x.below y = true) fun a => a.1.datedStanding := by
    funext a b
    rw [isBefore_eq_below, if_pos (h a.1 b.1 a.2 b.2)]
    simp [Function.onFun]
  rw [hbelow]
  infer_instance

/-! ## Two result times -/

theorem higher_self (a : Option Instant) : higher a a = a := by
  simp [higher]

theorem latest_self (a : Option Instant) : latest a a = .ok a := by
  rw [latest_eq, if_pos (Standing.compares_self _), higher_self]

/-- The latest of two result times is the latest of the first of them and itself. -/
theorem latest_latest (a b : Option Instant) : (do latest a (← latest a b)) = latest a b := by
  have hassoc := latest_assoc a a b
  rw [latest_self, ok_bind] at hassoc
  exact hassoc.symm

/-! ## The first of the highest -/

/-- The timestamps of result times, in their order. -/
def timestamps (is : List (Option Instant)) : List Timestamp :=
  is.flatMap fun i => (i.bind (·.value)).toList

/-- Whether one clock tells its distance from universal time and another one does not. -/
def MixesClocks (is : List (Option Instant)) : Prop :=
  ∃ s ∈ timestamps is, ∃ t ∈ timestamps is, s.isAware = true ∧ t.isAware = false

/-- A member of a list that stands above all the members before it, and that no member after it
stands above. -/
def IsFirstHighest (is : List (Option Instant)) (x : Option Instant) : Prop :=
  ∃ before after, is = before ++ x :: after ∧ (∀ y ∈ before, (of y).below (of x) = true) ∧
    ∀ y ∈ after, (of x).below (of y) = false

/-- Result times any two of which can be compared. -/
def Compatible (is : List (Option Instant)) : Prop :=
  ∀ a ∈ is, ∀ b ∈ is, (of a).compares (of b) = true

variable {is js : List (Option Instant)} {x y : Option Instant}

namespace IsFirstHighest

theorem singleton (x : Option Instant) : IsFirstHighest [x] x :=
  ⟨[], [], rfl, List.forall_mem_nil _, List.forall_mem_nil _⟩

theorem mem (h : IsFirstHighest is x) : x ∈ is := by
  obtain ⟨before, after, rfl, -, -⟩ := h
  simp

/-- No member of the list stands above the highest. -/
theorem not_below (h : IsFirstHighest is x) : ∀ y ∈ is, (of x).below (of y) = false := by
  obtain ⟨before, after, rfl, hbefore, hafter⟩ := h
  intro y hy
  rcases List.mem_append.1 hy with hy | hy
  · exact Standing.not_below_of_below (hbefore y hy)
  · rcases List.mem_cons.1 hy with rfl | hy
    · exact Standing.below_irrefl _
    · exact hafter y hy

/-- The highest of two lists is the higher of their highest members, the left one on a tie. -/
theorem append (hx : IsFirstHighest is x) (hy : IsFirstHighest js y) :
    IsFirstHighest (is ++ js) (higher x y) := by
  have hbelow := hx.not_below
  have hnotBelow := hy.not_below
  obtain ⟨before, after, rfl, hbefore, hafter⟩ := hx
  obtain ⟨before', after', rfl, hbefore', hafter'⟩ := hy
  unfold higher
  by_cases h : (of x).below (of y) = true
  · rw [if_pos h]
    refine ⟨(before ++ x :: after) ++ before', after', by simp, ?_, hafter'⟩
    intro z hz
    rcases List.mem_append.1 hz with hz | hz
    · exact Standing.below_of_not_below (hbelow z hz) h
    · exact hbefore' z hz
  · rw [if_neg h]
    have hxy : (of x).below (of y) = false := by simpa using h
    refine ⟨before, after ++ (before' ++ y :: after'), by simp, hbefore, ?_⟩
    intro z hz
    rcases List.mem_append.1 hz with hz | hz
    · exact hafter z hz
    · exact Standing.not_below_trans hxy (hnotBelow z hz)

/-- There is one first of the highest members: what stood before it would be below it. -/
theorem unique (hx : IsFirstHighest is x) (hy : IsFirstHighest is y) : x = y := by
  have hxy := hx.not_below y hy.mem
  have hyx := hy.not_below x hx.mem
  obtain ⟨before, after, rfl, hbefore, -⟩ := hx
  obtain ⟨before', after', hsame, hbefore', -⟩ := hy
  rcases List.append_eq_append_iff.1 hsame with ⟨between, rfl, hrest⟩ | ⟨between, rfl, hrest⟩
  · cases between with
    | nil => exact (List.cons.inj hrest).1
    | cons z zs =>
      obtain ⟨rfl, -⟩ := List.cons.inj hrest
      rw [hbefore' x (by simp)] at hxy
      cases hxy
  · cases between with
    | nil => exact (List.cons.inj hrest).1.symm
    | cons z zs =>
      obtain ⟨rfl, -⟩ := List.cons.inj hrest
      rw [hbefore y (by simp)] at hyx
      cases hyx

end IsFirstHighest

theorem mem_timestamps_iff {t : Timestamp} :
    t ∈ timestamps is ↔ ∃ i ∈ is, of i = .dated t := by
  have hof (i : Option Instant) : t ∈ (i.bind (·.value)).toList ↔ of i = .dated t := by
    rcases i with _ | ⟨_ | s, w, r⟩
    · simp [of]
    · cases hset : isSet ⟨none, w, r⟩ <;> simp [of, hset]
    · simp [of, eq_comm]
  simp [timestamps, hof]

theorem compatible_iff_not_mixesClocks : Compatible is ↔ ¬ MixesClocks is := by
  constructor
  · intro h hmixes
    obtain ⟨s, hs, t, ht, haware, hnaive⟩ := hmixes
    obtain ⟨i, hi, his⟩ := mem_timestamps_iff.1 hs
    obtain ⟨j, hj, hjt⟩ := mem_timestamps_iff.1 ht
    have hcompares := h i hi j hj
    rw [his, hjt] at hcompares
    simp [Standing.compares, Timestamp.comparable, haware, hnaive] at hcompares
  · intro hmixes i hi j hj
    cases his : of i with
    | unset => rfl
    | vague => rfl
    | dated s =>
      cases hjt : of j with
      | unset => rfl
      | vague => rfl
      | dated t =>
        have hs := mem_timestamps_iff.2 ⟨i, hi, his⟩
        have ht := mem_timestamps_iff.2 ⟨j, hj, hjt⟩
        simp only [Standing.compares, Timestamp.comparable, beq_iff_eq]
        by_contra hne
        apply hmixes
        cases haware : s.isAware with
        | true => exact ⟨s, hs, t, ht, haware, by simpa [haware] using hne⟩
        | false => exact ⟨t, ht, s, hs, by simpa [haware] using hne, haware⟩

theorem Compatible.left (h : Compatible (is ++ js)) : Compatible is :=
  fun a ha b hb => h a (List.mem_append_left _ ha) b (List.mem_append_left _ hb)

theorem Compatible.right (h : Compatible (is ++ js)) : Compatible js :=
  fun a ha b hb => h a (List.mem_append_right _ ha) b (List.mem_append_right _ hb)

/-- If the highest members of two lists can be compared, then so can all the members. -/
theorem Compatible.append (his : Compatible is) (hjs : Compatible js) (hx : IsFirstHighest is x)
    (hy : IsFirstHighest js y) (hxy : (of x).compares (of y) = true) : Compatible (is ++ js) := by
  have hcross : ∀ a ∈ is, ∀ b ∈ js, (of b).compares (of a) = true := by
    intro a ha b hb
    have hay : (of a).compares (of y) = true :=
      Standing.compares_of_not_below (his a ha x hx.mem) (hx.not_below a ha) hxy
    rw [Standing.compares_comm] at hay
    exact Standing.compares_of_not_below (hjs b hb y hy.mem) (hy.not_below b hb) hay
  intro a ha b hb
  rcases List.mem_append.1 ha with ha | ha <;> rcases List.mem_append.1 hb with hb | hb
  · exact his a ha b hb
  · rw [Standing.compares_comm]
    exact hcross a ha b hb
  · exact hcross b hb a ha
  · exact hjs a ha b hb

end Instant

/-! ## Brackets -/

/-- The things of a list put in brackets, two and two. -/
inductive Bracketing (α : Type) where
  | leaf (a : α)
  | node (left right : Bracketing α)

namespace Bracketing

open Instant (IsFirstHighest MixesClocks Compatible)
open Standing (of)

def leaves {α : Type} : Bracketing α → List α
  | .leaf a => [a]
  | .node l r => l.leaves ++ r.leaves

/-- The latest of result times that are put in brackets. -/
def latest : Bracketing (Option Instant) → Except Failure (Option Instant)
  | .leaf i => .ok i
  | .node l r => do Instant.latest (← l.latest) (← r.latest)

/-- Brackets around result times either lead to the first of the highest, or to a failure. -/
theorem latest_cases (t : Bracketing (Option Instant)) :
    (Compatible t.leaves ∧ ∃ x, t.latest = .ok x ∧ IsFirstHighest t.leaves x) ∨
      (¬ Compatible t.leaves ∧ t.latest = .error .unorderable) := by
  induction t with
  | leaf i =>
    refine .inl ⟨?_, i, rfl, IsFirstHighest.singleton i⟩
    intro a ha b hb
    rw [List.mem_singleton.1 ha, List.mem_singleton.1 hb]
    exact Standing.compares_self _
  | node l r ihl ihr =>
    rw [leaves, latest]
    rcases ihl with ⟨hl, x, hx, hfirst⟩ | ⟨hl, hfails⟩
    · rcases ihr with ⟨hr, y, hy, hsecond⟩ | ⟨hr, hfails⟩
      · rw [hx, hy, ok_bind, ok_bind, Instant.latest_eq]
        by_cases hxy : (of x).compares (of y) = true
        · rw [if_pos hxy]
          exact .inl ⟨hl.append hr hfirst hsecond hxy, _, rfl, hfirst.append hsecond⟩
        · rw [if_neg hxy]
          refine .inr ⟨fun h => hxy ?_, rfl⟩
          exact h x (List.mem_append_left _ hfirst.mem) y (List.mem_append_right _ hsecond.mem)
      · rw [hx, hfails]
        exact .inr ⟨fun h => hr h.right, rfl⟩
    · rw [hfails]
      exact .inr ⟨fun h => hl h.left, rfl⟩

theorem latest_eq_error_iff (t : Bracketing (Option Instant)) :
    t.latest = .error .unorderable ↔ MixesClocks t.leaves := by
  rw [← Classical.not_not (a := MixesClocks t.leaves), ← Instant.compatible_iff_not_mixesClocks]
  rcases t.latest_cases with ⟨h, x, hx, -⟩ | ⟨h, hfails⟩
  · simp [h, hx]
  · simp [h, hfails]

theorem exists_latest {t : Bracketing (Option Instant)} (h : ¬ MixesClocks t.leaves) :
    ∃ x, t.latest = .ok x ∧ IsFirstHighest t.leaves x := by
  rw [← Instant.compatible_iff_not_mixesClocks] at h
  rcases t.latest_cases with ⟨-, hlatest⟩ | ⟨hnot, -⟩
  · exact hlatest
  · exact absurd h hnot

/-- What is latest depends on the list alone, and not on the brackets. -/
theorem latest_congr {t u : Bracketing (Option Instant)} (h : t.leaves = u.leaves) :
    t.latest = u.latest := by
  by_cases hmixes : MixesClocks t.leaves
  · rw [t.latest_eq_error_iff.2 hmixes]
    rw [h] at hmixes
    exact (u.latest_eq_error_iff.2 hmixes).symm
  · obtain ⟨x, hx, hfirst⟩ := exists_latest hmixes
    rw [h] at hmixes hfirst
    obtain ⟨y, hy, hsecond⟩ := exists_latest hmixes
    rw [hx, hy, hfirst.unique hsecond]

/-- **The latest of result times is the first of the highest.** Among instants whose clocks can be
compared, lying before each other is a strict weak order. The later of two result times is the one of
the higher standing, the left one if they stand alike: instants that say nothing stand lowest, then
come those without timestamp, then those with one, in the order of their timestamps. This is
associative, idempotent and absorbing. Of a list the latest is the first member of the highest
standing, in whatever brackets, and there is none exactly if the list mixes clocks that cannot be
compared. -/
theorem latest_isFirstHighest :
    (∀ P : Instant → Prop, (∀ a b, P a → P b → ∀ s ∈ a.value, ∀ t ∈ b.value, s.comparable t = true) →
      (∀ a b, P a → P b → ∃ r, a.isBefore b = .ok r) ∧
        IsStrictWeakOrder {a // P a} fun a b => a.1.isBefore b.1 = .ok true) ∧
    (∀ a b, ¬ MixesClocks [a, b] → Instant.latest a b = .ok (if (of a).below (of b) then b else a)) ∧
    (∀ a b c, (do Instant.latest (← Instant.latest a b) c) =
      (do Instant.latest a (← Instant.latest b c))) ∧
    (∀ a, Instant.latest a a = .ok a) ∧
    (∀ a b, (do Instant.latest a (← Instant.latest a b)) = Instant.latest a b) ∧
    (∀ t : Bracketing (Option Instant),
      (t.latest = .error .unorderable ↔ MixesClocks t.leaves) ∧
        (¬ MixesClocks t.leaves → ∃ x, t.latest = .ok x ∧ IsFirstHighest t.leaves x)) ∧
    ∀ t u : Bracketing (Option Instant), t.leaves = u.leaves → t.latest = u.latest := by
  refine ⟨?_, ?_, Instant.latest_assoc, Instant.latest_self, Instant.latest_latest, ?_, ?_⟩
  · intro P hP
    have hcompares : ∀ a b, P a → P b → a.datedStanding.compares b.datedStanding = true :=
      fun a b ha hb => Instant.datedStanding_compares (hP a b ha hb)
    refine ⟨?_, Instant.isStrictWeakOrder_isBefore hcompares⟩
    intro a b ha hb
    rw [Instant.isBefore_eq_below, if_pos (hcompares a b ha hb)]
    exact ⟨_, rfl⟩
  · intro a b h
    rw [← Instant.compatible_iff_not_mixesClocks] at h
    rw [Instant.latest_eq, if_pos (h a (by simp) b (by simp)), Instant.higher]
  · intro t
    exact ⟨t.latest_eq_error_iff, exists_latest⟩
  · intro t u
    exact latest_congr

/-- Two clocks that show one instant: the first of them is the latest, before one that says nothing
and one of a template. -/
theorem latest_isFirstHighest_tied :
    let noon : Instant := .ofTimestamp (some { shown := 0, offset := some 0 })
    let ahead : Instant :=
      .ofTimestamp (some { shown := 3600000000000, offset := some 3600000000 })
    let t : Bracketing (Option Instant) :=
      .node (.node (.leaf none) (.leaf (some noon))) (.node (.leaf (some ahead))
        (.leaf (some .template)))
    ¬ MixesClocks t.leaves ∧ t.latest = .ok (some noon) ∧
      IsFirstHighest t.leaves (some noon) := by
  intro noon ahead t
  have hmixes : ¬ MixesClocks t.leaves := by
    unfold MixesClocks
    decide
  obtain ⟨-, -, -, -, -, hbrackets, -⟩ := latest_isFirstHighest
  obtain ⟨x, hx, hfirst⟩ := (hbrackets t).2 hmixes
  have hnoon : t.latest = .ok (some noon) := rfl
  rw [hnoon] at hx
  cases hx
  exact ⟨hmixes, hnoon, hfirst⟩

end Bracketing

end SensorSeries
