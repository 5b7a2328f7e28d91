import Mathlib.Data.List.Basic
import Mathlib.Data.List.Perm.Basic
import Mathlib.Order.Lattice
import Mathlib.Order.OrderDual

/-!
# Stable sortings

Two lists are `Rearranged` if for every rank they hold the same items of that rank, in the same
order. A list that is a rearrangement of another one and in which the ranks never decrease is its
stable sorting (`IsSorting`); there is only one (`IsSorting.unique`). Sortings are put together from
parts: a sorted stretch that nothing else has to come before may be taken off first.
-/

namespace SensorSeries

variable {α β : Type}

/-! ## Rearrangements -/

/-- The same items of every rank, in the same order. -/
def Rearranged [LinearOrder β] (rank : α → β) (items after : List α) : Prop :=
  ∀ r, after.filter (rank · = r) = items.filter (rank · = r)

namespace Rearranged

variable [LinearOrder β] {rank : α → β} {items after last front rest front' rest' : List α}

theorem refl (rank : α → β) (items : List α) : Rearranged rank items items := fun _ => rfl

theorem trans (h : Rearranged rank items after) (h' : Rearranged rank after last) :
    Rearranged rank items last := fun r => (h' r).trans (h r)

theorem append (hfront : Rearranged rank front front') (hrest : Rearranged rank rest rest') :
    Rearranged rank (front ++ rest) (front' ++ rest') := by
  intro r
  rw [List.filter_append, List.filter_append, hfront r, hrest r]

theorem append_left (front : List α) (h : Rearranged rank rest rest') :
    Rearranged rank (front ++ rest) (front ++ rest') := (refl rank front).append h

theorem append_right (rest : List α) (h : Rearranged rank front front') :
    Rearranged rank (front ++ rest) (front' ++ rest) := h.append (refl rank rest)

theorem reverse (h : Rearranged rank items after) :
    Rearranged rank items.reverse after.reverse := by
  intro r
  rw [List.filter_reverse, List.filter_reverse, h r]

theorem perm (h : Rearranged rank items after) : after.Perm items := by
  classical
  -- An item occurs as often as among the items of its rank.
  have hcount (x : α) (l : List α) : (l.filter (rank · = rank x)).count x = l.count x :=
    List.count_filter (by simp)
  rw [List.perm_iff_count]
  intro x
  rw [← hcount, h, hcount]

/-- Parts that have no rank in common may change places. -/
theorem swap (h : ∀ x ∈ front, ∀ y ∈ rest, rank x ≠ rank y) :
    Rearranged rank (front ++ rest) (rest ++ front) := by
  intro r
  rw [List.filter_append, List.filter_append]
  by_cases hr : ∃ x ∈ front, rank x = r
  · obtain ⟨x, hx, rfl⟩ := hr
    have hnone : rest.filter (rank · = rank x) = [] := by
      rw [List.filter_eq_nil_iff]
      intro y hy heq
      exact h x hx y hy (of_decide_eq_true heq).symm
    rw [hnone, List.nil_append, List.append_nil]
  · have hnone : front.filter (rank · = r) = [] := by
      rw [List.filter_eq_nil_iff]
      intro x hx heq
      exact hr ⟨x, hx, of_decide_eq_true heq⟩
    rw [hnone, List.nil_append, List.append_nil]

/-- A list without two items of one rank may be turned round. -/
theorem reverse_of_ne (h : items.Pairwise fun x y => rank x ≠ rank y) :
    Rearranged rank items items.reverse := by
  induction items with
  | nil => exact refl rank []
  | cons x items ih =>
    obtain ⟨hhead, htail⟩ := List.pairwise_cons.1 h
    have hturn : Rearranged rank ([x] ++ items) (items ++ [x]) := swap (by simpa using hhead)
    rw [List.reverse_cons]
    exact hturn.trans ((ih htail).append_right [x])

/-- Items may be told apart by what stands for them. -/
theorem of_map {γ : Type} {f : γ → α} (hf : Function.Injective f) {items after : List γ}
    (h : Rearranged rank (items.map f) (after.map f)) :
    Rearranged (fun x => rank (f x)) items after := by
  intro r
  have hr := h r
  rw [List.filter_map, List.filter_map] at hr
  exact List.map_injective_iff.2 hf hr

end Rearranged

/-! ## Sortings -/

/-- A stable sorting: ranks never decrease, and items of one rank stay in their order. -/
structure IsSorting [LinearOrder β] (rank : α → β) (items after : List α) : Prop where
  ordered : after.Pairwise fun x y => rank x ≤ rank y
  stable : Rearranged rank items after

namespace IsSorting

variable [LinearOrder β] {rank : α → β} {items after front middle rest : List α}

theorem mem_iff (h : IsSorting rank items after) {x : α} : x ∈ after ↔ x ∈ items :=
  h.stable.perm.mem_iff

theorem of_ordered (h : items.Pairwise fun x y => rank x ≤ rank y) : IsSorting rank items items :=
  ⟨h, .refl rank items⟩

/-- What is left of the sorting of a rearrangement is a sorting of the list. -/
theorem of_rearranged (hitems : Rearranged rank items middle) (h : IsSorting rank middle after) :
    IsSorting rank items after := ⟨h.ordered, hitems.trans h.stable⟩

/-- A sorted stretch comes first if what stood before it has greater ranks, and what stands behind
it no smaller ones. -/
theorem prepend (hmiddle : middle.Pairwise fun x y => rank x ≤ rank y)
    (hfront : ∀ x ∈ front, ∀ y ∈ middle, rank y < rank x)
    (hrest : ∀ y ∈ middle, ∀ z ∈ rest, rank y ≤ rank z)
    (h : IsSorting rank (front ++ rest) after) :
    IsSorting rank (front ++ (middle ++ rest)) (middle ++ after) := by
  refine ⟨List.pairwise_append.2 ⟨hmiddle, h.ordered, ?_⟩, ?_⟩
  · intro y hy z hz
    rcases List.mem_append.1 (h.mem_iff.1 hz) with hz | hz
    · exact (hfront z hz y hy).le
    · exact hrest y hy z hz
  · have hswap : Rearranged rank (front ++ middle) (middle ++ front) :=
      .swap fun x hx y hy => (hfront x hx y hy).ne'
    rw [← List.append_assoc]
    refine (hswap.append_right rest).trans ?_
    rw [List.append_assoc]
    exact h.stable.append_left middle

theorem prepend_first (hmiddle : middle.Pairwise fun x y => rank x ≤ rank y)
    (hrest : ∀ y ∈ middle, ∀ z ∈ rest, rank y ≤ rank z) (h : IsSorting rank rest after) :
    IsSorting rank (middle ++ rest) (middle ++ after) := by
  have hfront : ∀ x ∈ ([] : List α), ∀ y ∈ middle, rank y < rank x := List.forall_mem_nil _
  exact prepend hmiddle hfront hrest h

/-- A sorted stretch of ranks that are no smaller than the others stays at the end. -/
theorem append (h : IsSorting rank items after) (hrest : rest.Pairwise fun x y => rank x ≤ rank y)
    (hle : ∀ x ∈ items, ∀ y ∈ rest, rank x ≤ rank y) :
    IsSorting rank (items ++ rest) (after ++ rest) := by
  refine ⟨List.pairwise_append.2 ⟨h.ordered, hrest, ?_⟩, h.stable.append_right rest⟩
  intro x hx y hy
  exact hle x (h.mem_iff.1 hx) y hy

/-- Of two lists in order that follow one another, a beginning of the first and an end of the second
may stay where they are. -/
theorem enclose (hleft : (front ++ items).Pairwise fun x y => rank x ≤ rank y)
    (hright : (middle ++ rest).Pairwise fun x y => rank x ≤ rank y)
    (hfront : ∀ x ∈ front, ∀ y ∈ middle ++ rest, rank x ≤ rank y)
    (hrest : ∀ x ∈ items, ∀ y ∈ rest, rank x ≤ rank y)
    (h : IsSorting rank (items ++ middle) after) :
    IsSorting rank (front ++ items ++ (middle ++ rest)) (front ++ after ++ rest) := by
  obtain ⟨hfront', -, hitems⟩ := List.pairwise_append.1 hleft
  obtain ⟨-, hrest', hmiddle⟩ := List.pairwise_append.1 hright
  rw [List.append_assoc, List.append_assoc]
  refine prepend_first hfront' ?_ ?_
  · intro x hx y hy
    rcases List.mem_append.1 hy with hy | hy
    · exact hitems x hx y hy
    · exact hfront x hx y hy
  · rw [← List.append_assoc]
    refine h.append hrest' ?_
    intro x hx y hy
    rcases List.mem_append.1 hx with hx | hx
    · exact hrest x hx y hy
    · exact hmiddle x hx y hy

/-- A sorting from the other end, in the opposite order, is a sorting turned round. -/
theorem of_reverse
    (h : IsSorting (fun x => OrderDual.toDual (rank x)) items.reverse after) :
    IsSorting rank items after.reverse := by
  refine ⟨List.pairwise_reverse.2 h.ordered, ?_⟩
  have hstable : Rearranged rank items.reverse after := h.stable
  rw [← List.reverse_reverse items]
  exact hstable.reverse

theorem of_map {γ : Type} {f : γ → α} (hf : Function.Injective f) {items after : List γ}
    (h : IsSorting rank (items.map f) (after.map f)) :
    IsSorting (fun x => rank (f x)) items after := by
  have hordered := h.ordered
  rw [List.pairwise_map] at hordered
  exact ⟨hordered, h.stable.of_map hf⟩

/-- Lists in order that are rearrangements of each other are one list. -/
theorem eq_of_ordered {after' : List α} (h : after.Pairwise fun x y => rank x ≤ rank y)
    (h' : after'.Pairwise fun x y => rank x ≤ rank y) (hsame : Rearranged rank after after') :
    after = after' := by
  induction after generalizing after' with
  | nil => exact hsame.perm.eq_nil.symm
  | cons x after ih =>
    cases after' with
    | nil => exact hsame.perm.nil_eq.symm
    | cons y after' =>
      obtain ⟨hhead, htail⟩ := List.pairwise_cons.1 h
      obtain ⟨hhead', htail'⟩ := List.pairwise_cons.1 h'
      -- Both begin with an item of the least rank, so with the first one of that rank.
      have hle : rank x ≤ rank y := by
        rcases List.mem_cons.1 (hsame.perm.subset List.mem_cons_self) with rfl | hy
        · exact le_rfl
        · exact hhead y hy
      have hge : rank y ≤ rank x := by
        rcases List.mem_cons.1 (hsame.perm.symm.subset List.mem_cons_self) with rfl | hx
        · exact le_rfl
        · exact hhead' x hx
      have hrank : rank y = rank x := le_antisymm hge hle
      obtain rfl : y = x := by
        have hfirst := hsame (rank x)
        rw [List.filter_cons_of_pos (by simp [hrank]), List.filter_cons_of_pos (by simp)] at hfirst
        exact (List.cons.inj hfirst).1
      congr 1
      refine ih htail htail' fun r => ?_
      have hrest := hsame r
      rw [List.filter_cons, List.filter_cons] at hrest
      split at hrest
      · exact (List.cons.inj hrest).2
      · exact hrest

/-- **There is one stable sorting.** -/
theorem unique {after' : List α} (h : IsSorting rank items after)
    (h' : IsSorting rank items after') : after = after' :=
  eq_of_ordered h.ordered h'.ordered fun r => (h'.stable r).trans (h.stable r).symm

end IsSorting

end SensorSeries
