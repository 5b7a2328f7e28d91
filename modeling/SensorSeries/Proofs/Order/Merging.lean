import SensorSeries.Order.Merging
import SensorSeries.Proofs.Order.Spans
import SensorSeries.Proofs.Order.Stability

/-!
# What merging gives

Where the comparison tells which of two ranks is smaller, merging two runs that are in order gives
the stable sorting of the one followed by the other (`mergeRuns_sorts`), whatever the patience is,
from whichever end it starts, and however it changes its pace. Every step of a merge takes items off
that may come first (`Takes`), so it is enough that the rest is merged well.
-/

namespace SensorSeries

variable {α β : Type} [LinearOrder β] {rank : α → β}

/-- Whether the comparison tells which rank is smaller, for the items in question. -/
def Compares (P : α → Prop) (rank : α → β) (before : α → α → Except Failure Bool) : Prop :=
  ∀ ⦃x y⦄, P x → P y → before x y = .ok (decide (rank x < rank y))

/-- Whether the ranks never decrease. -/
abbrev Ordered (rank : α → β) (items : List α) : Prop :=
  items.Pairwise fun x y => rank x ≤ rank y

namespace Merging

variable {p : MergePlan α} {kept other kept' other' : List α}

/-! ## Two runs to merge -/

/-- Two runs in order that a plan compares by rank, where the last item of `kept` stands behind all
of `other`. -/
structure Ready (rank : α → β) (p : MergePlan α) (kept other : List α) : Prop where
  splits : Splits p.search
  compares : ∀ x ∈ kept, ∀ y ∈ other, p.otherWins x y = .ok (decide (rank y < rank x))
  kept_ordered : Ordered rank kept
  other_ordered : Ordered rank other
  last : ∀ x ∈ kept.getLast?, ∀ y ∈ other, rank y < rank x

theorem isSorting_of_decided {rest : List α} (h : Ready rank p kept other)
    (hdecided : decided? kept other = some rest) : IsSorting rank (kept ++ other) rest := by
  match kept, other with
  | [], other =>
    cases hdecided
    exact .of_ordered h.other_ordered
  | [x], other =>
    cases hdecided
    have hlast : ∀ y ∈ other, rank y < rank x := h.last x rfl
    have hsorting : IsSorting rank ([x] ++ (other ++ [])) (other ++ [x]) :=
      .prepend h.other_ordered (by simpa using hlast) (by simp)
        (.of_ordered (List.pairwise_singleton _ _))
    rwa [List.append_nil] at hsorting
  | x :: x' :: kept, [] =>
    cases hdecided
    rw [List.append_nil]
    exact .of_ordered h.kept_ordered
  | x :: x' :: kept, y :: other => cases hdecided

theorem exists_of_undecided (h : decided? kept other = none) :
    ∃ x kept' y other', kept = x :: kept' ∧ other = y :: other' := by
  match kept, other with
  | [], other => cases h
  | [x], other => cases h
  | x :: x' :: kept, [] => cases h
  | x :: x' :: kept, y :: other => exact ⟨x, x' :: kept, y, other, rfl, rfl⟩

/-! ## Taking items off -/

/-- Items taken off two runs, which come first whatever the merge of the rest is. -/
structure Takes (rank : α → β) (kept other taken kept' other' : List α) : Prop where
  kept_suffix : kept' <:+ kept
  other_suffix : other' <:+ other
  length : taken.length + (kept'.length + other'.length) = kept.length + other.length
  sorts : ∀ {after}, IsSorting rank (kept' ++ other') after →
    IsSorting rank (kept ++ other) (taken ++ after)

namespace Takes

variable {taken taken' kept'' other'' : List α}

theorem nothing (rank : α → β) (kept other : List α) : Takes rank kept other [] kept other :=
  ⟨List.suffix_refl _, List.suffix_refl _, by simp, id⟩

theorem trans (h : Takes rank kept other taken kept' other')
    (h' : Takes rank kept' other' taken' kept'' other'') :
    Takes rank kept other (taken ++ taken') kept'' other'' where
  kept_suffix := h'.kept_suffix.trans h.kept_suffix
  other_suffix := h'.other_suffix.trans h.other_suffix
  length := by
    rw [List.length_append, Nat.add_assoc, h'.length, h.length]
  sorts hafter := by
    rw [List.append_assoc]
    exact h.sorts (h'.sorts hafter)

/-- Items of `kept` may be taken that no item of `other` has to precede. -/
theorem ofKept (hkept : Ordered rank (taken ++ kept'))
    (hother : ∀ x ∈ taken, ∀ y ∈ other, rank x ≤ rank y) :
    Takes rank (taken ++ kept') other taken kept' other where
  kept_suffix := List.suffix_append _ _
  other_suffix := List.suffix_refl _
  length := by
    rw [List.length_append, Nat.add_assoc]
  sorts hafter := by
    obtain ⟨htaken, -, hrest⟩ := List.pairwise_append.1 hkept
    rw [List.append_assoc]
    refine .prepend_first htaken ?_ hafter
    intro x hx z hz
    rcases List.mem_append.1 hz with hz | hz
    · exact hrest x hx z hz
    · exact hother x hx z hz

/-- Items of `other` may be taken that precede all of `kept`. -/
theorem ofOther (hother : Ordered rank (taken ++ other'))
    (hkept : ∀ x ∈ kept, ∀ y ∈ taken, rank y < rank x) :
    Takes rank kept (taken ++ other') taken kept other' where
  kept_suffix := List.suffix_refl _
  other_suffix := List.suffix_append _ _
  length := by
    rw [List.length_append]
    omega
  sorts hafter := by
    obtain ⟨htaken, -, hrest⟩ := List.pairwise_append.1 hother
    exact .prepend htaken hkept hrest hafter

theorem firstKept {x : α} (hkept : Ordered rank (x :: kept))
    (hother : ∀ y ∈ other, rank x ≤ rank y) : Takes rank (x :: kept) other [x] kept other := by
  have htaken : ∀ z ∈ [x], ∀ y ∈ other, rank z ≤ rank y := by simpa using hother
  exact ofKept hkept htaken

theorem firstOther {y : α} (hother : Ordered rank (y :: other))
    (hkept : ∀ x ∈ kept, rank y < rank x) : Takes rank kept (y :: other) [y] kept other := by
  have htaken : ∀ x ∈ kept, ∀ z ∈ [y], rank z < rank x := by simpa using hkept
  exact ofOther hother htaken

/-- What is left of the runs is still ready to be merged. -/
theorem ready (h : Takes rank kept other taken kept' other') (hready : Ready rank p kept other) :
    Ready rank p kept' other' where
  splits := hready.splits
  compares x hx y hy := hready.compares x (h.kept_suffix.subset hx) y (h.other_suffix.subset hy)
  kept_ordered := hready.kept_ordered.sublist h.kept_suffix.sublist
  other_ordered := hready.other_ordered.sublist h.other_suffix.sublist
  last := by
    obtain ⟨front, hfront⟩ := h.kept_suffix
    intro x hx y hy
    refine hready.last x ?_ y (h.other_suffix.subset hy)
    rw [← hfront, List.getLast?_append, Option.mem_def.1 hx]
    rfl

theorem finish {rest : List α} (h : Takes rank kept other taken kept' other')
    (hready : Ready rank p kept other) (hdecided : decided? kept' other' = some rest) :
    IsSorting rank (kept ++ other) (taken ++ rest) :=
  h.sorts (isSorting_of_decided (h.ready hready) hdecided)

end Takes

/-! ## Stretches -/

theorem stretchOfKept_takes (h : Ready rank p kept other) :
    ∃ s, stretchOfKept p kept other = .ok s ∧ Takes rank kept other s.taken s.kept s.other ∧
      (decided? s.kept s.other = none → s.taken ≠ []) := by
  cases other with
  | nil =>
    refine ⟨_, rfl, .nothing rank kept [], fun hnone => ?_⟩
    obtain ⟨_, _, _, _, -, hnil⟩ := exists_of_undecided hnone
    cases hnil
  | cons y others =>
    obtain ⟨hy, -⟩ := List.pairwise_cons.1 h.other_ordered
    have htest : ∀ x ∈ kept, (do return !(← p.otherWins x y)) =
        (.ok (decide (rank x ≤ rank y)) : Except Failure Bool) := by
      intro x hx
      rw [h.compares x hx y List.mem_cons_self, ok_bind, ← decide_not]
      simp only [not_lt, pure_eq_ok]
    obtain ⟨front, rest, rfl, hfront, hrest, hspan⟩ :=
      (splits_gallopSpan h.splits).cut htest (h.kept_ordered.imp le_trans)
    have hstretch : Takes rank (front ++ rest) (y :: others) front rest (y :: others) := by
      refine .ofKept h.kept_ordered fun x hx z hz => ?_
      rcases List.mem_cons.1 hz with rfl | hz
      · exact hfront x hx
      · exact (hfront x hx).trans (hy z hz)
    rw [stretchOfKept, hspan, ok_bind]
    dsimp only
    cases hdecided : decided? rest (y :: others) with
    | some merged =>
      exact ⟨⟨front, front.length, rest, y :: others⟩, rfl, hstretch,
        fun hnone => nomatch hdecided.symm.trans hnone⟩
    | none =>
      have hnext : Takes rank rest (y :: others) [y] rest others :=
        .firstOther h.other_ordered fun x hx => not_le.1 (hrest x hx)
      exact ⟨⟨front ++ [y], front.length, rest, others⟩, rfl, hstretch.trans hnext, by simp⟩

theorem stretchOfOther_takes (h : Ready rank p kept other) :
    ∃ s, stretchOfOther p kept other = .ok s ∧ Takes rank kept other s.taken s.kept s.other ∧
      (decided? s.kept s.other = none → s.taken ≠ []) := by
  cases kept with
  | nil =>
    refine ⟨_, rfl, .nothing rank [] other, fun hnone => ?_⟩
    obtain ⟨_, _, _, _, hnil, -⟩ := exists_of_undecided hnone
    cases hnil
  | cons x rest =>
    obtain ⟨hx, -⟩ := List.pairwise_cons.1 h.kept_ordered
    obtain ⟨front, others, rfl, hfront, hothers, hspan⟩ :=
      (splits_gallopSpan h.splits).cut (h.compares x List.mem_cons_self)
        (h.other_ordered.imp lt_of_le_of_lt)
    have hstretch : Takes rank (x :: rest) (front ++ others) front (x :: rest) others := by
      refine .ofOther h.other_ordered fun z hz y hy => ?_
      rcases List.mem_cons.1 hz with rfl | hz
      · exact hfront y hy
      · exact (hfront y hy).trans_le (hx z hz)
    rw [stretchOfOther, hspan, ok_bind]
    dsimp only
    cases hdecided : decided? (x :: rest) others with
    | some merged =>
      exact ⟨⟨front, front.length, x :: rest, others⟩, rfl, hstretch,
        fun hnone => nomatch hdecided.symm.trans hnone⟩
    | none =>
      have hnext : Takes rank (x :: rest) others [x] rest others :=
        .firstKept h.kept_ordered fun y hy => not_lt.1 (hothers y hy)
      exact ⟨⟨front ++ [x], front.length, rest, others⟩, rfl, hstretch.trans hnext, by simp⟩

theorem stretch_takes {answer : Except Failure (Stretch α)} (h : Ready rank p kept other)
    (hanswer : answer = stretchOfKept p kept other ∨ answer = stretchOfOther p kept other) :
    ∃ s, answer = .ok s ∧ Takes rank kept other s.taken s.kept s.other ∧
      (decided? s.kept s.other = none → s.taken ≠ []) := by
  rcases hanswer with rfl | rfl
  · exact stretchOfKept_takes h
  · exact stretchOfOther_takes h

/-! ## The whole merge -/

/-- By stretches, one of each run is taken in turn. -/
theorem proceed_stretches (fuel patience : Nat) :
    proceed p (fuel + 1) .stretches patience kept other = (do
      let a ← (if p.keptFirst then stretchOfKept p kept other else stretchOfOther p kept other)
      match decided? a.kept a.other with
      | some rest => return (a.taken ++ rest, patience)
      | none =>
        let b ← (if p.keptFirst then stretchOfOther p a.kept a.other
          else stretchOfKept p a.kept a.other)
        match decided? b.kept b.other with
        | some rest => return (a.taken ++ b.taken ++ rest, patience)
        | none =>
          let (rest, patience) ←
            if worthwhile ≤ a.length || worthwhile ≤ b.length then
              proceed p fuel .stretches (if 1 < patience then patience - 1 else patience) b.kept
                b.other
            else proceed p fuel (.single 0 0) (patience + 1) b.kept b.other
          return (a.taken ++ b.taken ++ rest, patience)) := by
  rw [proceed]
  split
  · rfl
  · rfl

/-- Whatever has been taken, the merge of what is left sorts with this much fuel. -/
def GoesOn (rank : α → β) (p : MergePlan α) (fuel : Nat) (kept other : List α) : Prop :=
  ∀ {taken kept' other' : List α} (pace : Pace) (patience : Nat),
    Takes rank kept other taken kept' other' → taken ≠ [] → decided? kept' other' = none →
      ∃ rest patience', proceed p fuel pace patience kept' other' = .ok (rest, patience') ∧
        IsSorting rank (kept ++ other) (taken ++ rest)

section GoesOn

variable {fuel : Nat} (h : Ready rank p kept other) (hgoesOn : GoesOn rank p fuel kept other)

include h hgoesOn

theorem proceed_single_sorts (keptWins otherWins patience : Nat)
    (hundecided : decided? kept other = none) :
    ∃ after patience', proceed p (fuel + 1) (.single keptWins otherWins) patience kept other =
      .ok (after, patience') ∧ IsSorting rank (kept ++ other) after := by
  obtain ⟨x, kept, y, other, rfl, rfl⟩ := exists_of_undecided hundecided
  have hwins := h.compares x List.mem_cons_self y List.mem_cons_self
  by_cases hlt : rank y < rank x
  · have htakes : Takes rank (x :: kept) (y :: other) [y] (x :: kept) other := by
      refine .firstOther h.other_ordered fun z hz => ?_
      rcases List.mem_cons.1 hz with rfl | hz
      · exact hlt
      · exact hlt.trans_le (List.rel_of_pairwise_cons h.kept_ordered hz)
    rw [proceed, hwins, decide_eq_true hlt, ok_bind, if_pos rfl]
    cases hdecided : decided? (x :: kept) other with
    | some rest => exact ⟨_, _, rfl, htakes.finish h hdecided⟩
    | none =>
      obtain ⟨rest, patience', hproceed, hafter⟩ := hgoesOn
        (if patience ≤ otherWins + 1 then .stretches else .single 0 (otherWins + 1)) patience
        htakes (List.cons_ne_nil _ _) hdecided
      dsimp only
      rw [hproceed]
      exact ⟨_, _, rfl, hafter⟩
  · have htakes : Takes rank (x :: kept) (y :: other) [x] kept (y :: other) := by
      refine .firstKept h.kept_ordered fun w hw => ?_
      rcases List.mem_cons.1 hw with rfl | hw
      · exact not_lt.1 hlt
      · exact (not_lt.1 hlt).trans (List.rel_of_pairwise_cons h.other_ordered hw)
    rw [proceed, hwins, decide_eq_false hlt, ok_bind, if_neg Bool.false_ne_true]
    cases hdecided : decided? kept (y :: other) with
    | some rest => exact ⟨_, _, rfl, htakes.finish h hdecided⟩
    | none =>
      obtain ⟨rest, patience', hproceed, hafter⟩ := hgoesOn
        (if patience ≤ keptWins + 1 then .stretches else .single (keptWins + 1) 0) patience
        htakes (List.cons_ne_nil _ _) hdecided
      dsimp only
      rw [hproceed]
      exact ⟨_, _, rfl, hafter⟩

theorem proceed_stretches_sorts (patience : Nat) :
    ∃ after patience', proceed p (fuel + 1) .stretches patience kept other =
      .ok (after, patience') ∧ IsSorting rank (kept ++ other) after := by
  obtain ⟨a, hstretch, ha, hane⟩ := stretch_takes h (ite_eq_or_eq (p.keptFirst = true) _ _)
  rw [proceed_stretches, hstretch, ok_bind]
  cases hdecided : decided? a.kept a.other with
  | some rest => exact ⟨_, _, rfl, ha.finish h hdecided⟩
  | none =>
    obtain ⟨b, hstretch, hb, -⟩ :=
      stretch_takes (ha.ready h) (ite_eq_or_eq (p.keptFirst = true) _ _).symm
    have hboth := ha.trans hb
    have hne : a.taken ++ b.taken ≠ [] := List.append_ne_nil_of_left_ne_nil (hane hdecided) _
    dsimp only
    rw [hstretch, ok_bind]
    cases hdecided' : decided? b.kept b.other with
    | some rest => exact ⟨_, _, rfl, hboth.finish h hdecided'⟩
    | none =>
      -- The pace depends on how long the stretches were; the merge goes on at either.
      dsimp only
      split
      · obtain ⟨rest, patience', hproceed, hafter⟩ := hgoesOn .stretches
          (if 1 < patience then patience - 1 else patience) hboth hne hdecided'
        rw [hproceed]
        exact ⟨_, _, rfl, hafter⟩
      · obtain ⟨rest, patience', hproceed, hafter⟩ := hgoesOn (.single 0 0) (patience + 1) hboth
          hne hdecided'
        rw [hproceed]
        exact ⟨_, _, rfl, hafter⟩

end GoesOn

theorem proceed_sorts (fuel : Nat) (pace : Pace) (patience : Nat) (h : Ready rank p kept other)
    (hundecided : decided? kept other = none) (hfuel : kept.length + other.length ≤ fuel) :
    ∃ after patience', proceed p fuel pace patience kept other = .ok (after, patience') ∧
      IsSorting rank (kept ++ other) after := by
  induction fuel generalizing pace patience kept other with
  | zero =>
    obtain ⟨x, kept, y, other, rfl, rfl⟩ := exists_of_undecided hundecided
    simp at hfuel
  | succ fuel ih =>
    have hgoesOn : GoesOn rank p fuel kept other := by
      intro taken kept' other' pace patience htakes hne hnone
      have hlength := htakes.length
      have hpos := List.length_pos_iff.2 hne
      obtain ⟨rest, patience', hproceed, hrest⟩ :=
        ih pace patience (htakes.ready h) hnone (by omega)
      exact ⟨rest, patience', hproceed, htakes.sorts hrest⟩
    cases pace with
    | single keptWins otherWins =>
      exact proceed_single_sorts h hgoesOn keptWins otherWins patience hundecided
    | stretches => exact proceed_stretches_sorts h hgoesOn patience

theorem start_sorts {y : α} (patience : Nat) (h : Ready rank p kept (y :: other))
    (hfirst : ∀ x ∈ kept, rank y < rank x) :
    ∃ after patience', start p patience kept (y :: other) = .ok (after, patience') ∧
      IsSorting rank (kept ++ y :: other) after := by
  have htakes : Takes rank kept (y :: other) [y] kept other :=
    .firstOther h.other_ordered hfirst
  rw [start]
  cases hdecided : decided? kept other with
  | some rest => exact ⟨_, _, rfl, htakes.finish h hdecided⟩
  | none =>
    obtain ⟨rest, patience', hproceed, hrest⟩ :=
      proceed_sorts _ (.single 0 0) patience (htakes.ready h) hdecided le_rfl
    dsimp only
    rw [hproceed]
    exact ⟨_, _, rfl, htakes.sorts hrest⟩

end Merging

/-! ## Runs that follow one another -/

variable {P : α → Prop} {before : α → α → Except Failure Bool} {first second : List α}

theorem le_last {init : List α} {x : α} (hordered : Ordered rank (init ++ [x])) :
    ∀ z ∈ init ++ [x], rank z ≤ rank x := by
  intro z hz
  rcases List.mem_append.1 hz with hz | hz
  · exact (List.pairwise_append.1 hordered).2.2 z hz x (List.mem_singleton_self x)
  · exact (congrArg rank (List.mem_singleton.1 hz)).le

theorem compares_not (hbefore : Compares P rank before) {x y : α} (hx : P x) (hy : P y) :
    (do return !(← before y x)) = (.ok (decide (rank x ≤ rank y)) : Except Failure Bool) := by
  rw [hbefore hy hx, ok_bind, ← decide_not]
  simp only [not_lt, pure_eq_ok]

section Ends

open Merging

variable {init core : List α} {x y : α} (hbefore : Compares P rank before)
  (hfirst : ∀ z ∈ init ++ [x], P z) (hsecond : ∀ z ∈ y :: core, P z)
  (hordered : Ordered rank (init ++ [x])) (hordered' : Ordered rank (y :: core))
  (hleast : ∀ z ∈ init ++ [x], rank y < rank z) (hgreatest : ∀ z ∈ y :: core, rank z < rank x)

include hbefore hfirst hsecond hordered hordered' hleast hgreatest

theorem fromFront_sorts (patience : Nat) :
    ∃ after patience', start (fromFront before) patience (init ++ [x]) (y :: core) =
      .ok (after, patience') ∧ IsSorting rank (init ++ [x] ++ y :: core) after := by
  refine start_sorts patience ?_ hleast
  refine ⟨splits_halvingSpan, ?_, hordered, hordered', ?_⟩
  · intro z hz w hw
    exact hbefore (hsecond w hw) (hfirst z hz)
  · intro z hz
    obtain rfl : x = z := by simpa using hz
    exact hgreatest

/-- From the back, the runs are merged turned round and in the opposite order. -/
theorem fromBack_sorts (patience : Nat) :
    ∃ after patience', start (fromBack before) patience (y :: core).reverse (init ++ [x]).reverse =
      .ok (after, patience') ∧ IsSorting rank (init ++ [x] ++ y :: core) after.reverse := by
  have hready : Ready (fun z => OrderDual.toDual (rank z)) (fromBack before) (y :: core).reverse
      (x :: init.reverse) := by
    rw [← List.reverse_concat]
    refine ⟨splits_halvingSpanBack, ?_, List.pairwise_reverse.2 hordered',
      List.pairwise_reverse.2 hordered, ?_⟩
    · intro z hz w hw
      exact hbefore (hsecond z (List.mem_reverse.1 hz)) (hfirst w (List.mem_reverse.1 hw))
    · intro z hz w hw
      obtain rfl : y = z := by simpa using hz
      exact hleast w (List.mem_reverse.1 hw)
  obtain ⟨after, patience', hstart, hafter⟩ :=
    start_sorts patience hready fun z hz => hgreatest z (List.mem_reverse.1 hz)
  rw [← List.reverse_concat] at hstart hafter
  rw [← List.reverse_append] at hafter
  exact ⟨after, patience', hstart, .of_reverse hafter⟩

end Ends

/-- What stands in the first run before the place of an item of the second is settled. -/
theorem exists_settled {y : α} (hbefore : Compares P rank before) (hfirst : ∀ x ∈ first, P x)
    (hy : P y) (hordered : Ordered rank first) :
    ∃ settled rest, first = settled ++ rest ∧ (∀ x ∈ settled, rank x ≤ rank y) ∧
      (∀ x ∈ rest, rank y < rank x) ∧
      gallopSpan halvingSpan (fun x => do return !(← before y x)) first = .ok (settled, rest) := by
  have htest : ∀ x ∈ first, (do return !(← before y x)) =
      (.ok (decide (rank x ≤ rank y)) : Except Failure Bool) := fun x hx =>
    compares_not hbefore (hfirst x hx) hy
  obtain ⟨settled, rest, hsplit, hsettled, hrest, hspan⟩ :=
    (splits_gallopSpan splits_halvingSpan).cut htest (hordered.imp le_trans)
  exact ⟨settled, rest, hsplit, hsettled, fun x hx => not_le.1 (hrest x hx), hspan⟩

/-- What stands in the second run behind the place of an item of the first is last. -/
theorem exists_last {x : α} (hbefore : Compares P rank before) (hx : P x)
    (hsecond : ∀ y ∈ second, P y) (hordered : Ordered rank second) :
    ∃ core tail, second = core ++ tail ∧ (∀ y ∈ core, rank y < rank x) ∧
      (∀ y ∈ tail, rank x ≤ rank y) ∧
      gallopSpan halvingSpanBack (fun z => do return !(← before z x)) second.reverse =
        .ok (tail.reverse, core.reverse) := by
  obtain ⟨core, tail, rfl, hcore, htail⟩ :=
    exists_cut (q := fun z => rank z < rank x) (hordered.imp lt_of_le_of_lt)
  have hle : ∀ y ∈ tail, rank x ≤ rank y := fun y hy => not_lt.1 (htail y hy)
  refine ⟨core, tail, rfl, hcore, hle, ?_⟩
  rw [List.reverse_append]
  refine splits_gallopSpan splits_halvingSpanBack ?_ ?_
  · intro y hy
    have hy := List.mem_reverse.1 hy
    rw [compares_not hbefore hx (hsecond y (List.mem_append_right _ hy)), decide_eq_true (hle y hy)]
  · intro y hy
    have hy := List.mem_reverse.1 hy
    rw [compares_not hbefore hx (hsecond y (List.mem_append_left _ hy)),
      decide_eq_false (hcore y hy).not_ge]

/-- **Merging two runs in order sorts them.** -/
theorem mergeRuns_sorts (patience : Nat) (hbefore : Compares P rank before)
    (hfirst : ∀ x ∈ first, P x) (hsecond : ∀ x ∈ second, P x) (hordered : Ordered rank first)
    (hordered' : Ordered rank second) :
    ∃ after patience', mergeRuns before patience first second = .ok (after, patience') ∧
      IsSorting rank (first ++ second) after := by
  cases second with
  | nil =>
    rw [List.append_nil]
    exact ⟨_, _, rfl, .of_ordered hordered⟩
  | cons y second =>
    obtain ⟨settled, first, rfl, hsettled, hleast, hspan⟩ :=
      exists_settled hbefore hfirst (hsecond y List.mem_cons_self) hordered
    have hfront : ∀ x ∈ settled, ∀ z ∈ y :: second, rank x ≤ rank z := by
      intro x hx z hz
      rcases List.mem_cons.1 hz with rfl | hz
      · exact hsettled x hx
      · exact (hsettled x hx).trans (List.rel_of_pairwise_cons hordered' hz)
    have hfirst : ∀ x ∈ first, P x := fun x hx => hfirst x (List.mem_append_right _ hx)
    have hordered_first := (List.pairwise_append.1 hordered).2.1
    rw [mergeRuns, hspan, ok_bind]
    dsimp only
    cases hlast : first.getLast? with
    | none =>
      obtain rfl := List.getLast?_eq_none_iff.1 hlast
      rw [List.append_nil] at hordered ⊢
      exact ⟨_, _, rfl, .of_ordered (List.pairwise_append.2 ⟨hordered, hordered', hfront⟩)⟩
    | some x =>
      obtain ⟨init, rfl⟩ := List.getLast?_eq_some_iff.1 hlast
      have hx : x ∈ init ++ [x] := by simp
      obtain ⟨core, tail, hsplit, hgreatest, htail, hspan⟩ :=
        exists_last hbefore (hfirst x hx) hsecond hordered'
      dsimp only
      rw [hspan, ok_bind]
      cases core with
      | nil =>
        -- The first item of the second run comes before `x`, so it is not among the last ones.
        rw [List.nil_append] at hsplit
        exact absurd (hleast x hx) (htail y (hsplit ▸ List.mem_cons_self)).not_gt
      | cons z core =>
        obtain rfl : y = z := (List.cons.inj hsplit).1
        rw [hsplit] at hsecond hordered' hfront ⊢
        have hsecond : ∀ z ∈ y :: core, P z := fun z hz => hsecond z (List.mem_append_left _ hz)
        have hordered_core := (List.pairwise_append.1 hordered').1
        have hbehind : ∀ z ∈ init ++ [x], ∀ w ∈ tail, rank z ≤ rank w := fun z hz w hw =>
          (le_last hordered_first z hz).trans (htail w hw)
        dsimp only
        rw [List.reverse_reverse, List.reverse_reverse]
        have hrest : (y :: core).reverse.isEmpty = false := by simp
        rw [hrest, if_neg Bool.false_ne_true]
        split
        · obtain ⟨after, patience', hstart, hafter⟩ := fromFront_sorts hbefore hfirst hsecond
            hordered_first hordered_core hleast hgreatest patience
          rw [hstart]
          exact ⟨_, _, rfl, hafter.enclose hordered hordered' hfront hbehind⟩
        · obtain ⟨after, patience', hstart, hafter⟩ := fromBack_sorts hbefore hfirst hsecond
            hordered_first hordered_core hleast hgreatest patience
          rw [hstart]
          exact ⟨_, _, rfl, hafter.enclose hordered hordered' hfront hbehind⟩

end SensorSeries
