import SensorSeries.Order.Sorting
import SensorSeries.Proofs.Order.Merging

/-!
# What sorting gives

Where the comparison tells which of two ranks is smaller, `sorted` gives the stable sorting of every
list (`sorted_sorts`), wherever it is cut into runs and in whichever order these are merged. At
every moment the runs that wait, one after the other, and what is still to be cut are a
rearrangement of the whole list.
-/

namespace SensorSeries

variable {α β : Type} [LinearOrder β] {rank : α → β} {P : α → Prop}
  {before : α → α → Except Failure Bool}

/-- A run in order, of items in question. -/
structure IsRun (P : α → Prop) (rank : α → β) (run : List α) : Prop where
  items : ∀ x ∈ run, P x
  ordered : Ordered rank run

theorem IsRun.of_isSorting {items run : List α} (hitems : ∀ x ∈ items, P x)
    (h : IsSorting rank items run) : IsRun P rank run where
  items x hx := hitems x (h.mem_iff.1 hx)
  ordered := h.ordered

/-! ## Cutting a run -/

theorem takeRun_chain (falling : Bool) {last : α} {items : List α}
    (hbefore : Compares P rank before)
    (hlast : P last) (hitems : ∀ x ∈ items, P x) :
    ∃ run others, takeRun before falling last items = .ok (run, others) ∧ items = run ++ others ∧
      (last :: run).IsChain fun x y => decide (rank y < rank x) = falling := by
  induction items generalizing last with
  | nil => exact ⟨[], [], rfl, rfl, .singleton _⟩
  | cons x items ih =>
    obtain ⟨hx, hitems⟩ := List.forall_mem_cons.1 hitems
    rw [takeRun, hbefore hx hlast, ok_bind]
    by_cases hfalling : decide (rank x < rank last) = falling
    · obtain ⟨run, others, htake, rfl, hchain⟩ := ih hx hitems
      rw [if_pos (beq_iff_eq.2 hfalling), htake]
      exact ⟨x :: run, others, rfl, rfl, .cons_cons hfalling hchain⟩
    · rw [if_neg (mt beq_iff_eq.1 hfalling)]
      exact ⟨[], x :: items, rfl, rfl, .singleton _⟩

/-- A run that falls is sorted by turning it round. -/
theorem isSorting_of_chain {falling : Bool} {run : List α}
    (h : run.IsChain fun x y => decide (rank y < rank x) = falling) :
    IsSorting rank run (if falling then run.reverse else run) := by
  cases falling with
  | false =>
    have hle : run.IsChain fun x y => rank x ≤ rank y :=
      h.imp fun x y hxy => not_lt.1 (of_decide_eq_false hxy)
    have htrans : IsTrans α fun x y => rank x ≤ rank y := ⟨fun _ _ _ => le_trans⟩
    exact .of_ordered (List.isChain_iff_pairwise.1 hle)
  | true =>
    have hlt : run.IsChain fun x y => rank y < rank x :=
      h.imp fun x y hxy => of_decide_eq_true hxy
    have htrans : IsTrans α fun x y => rank y < rank x := ⟨fun _ _ _ hxy hyz => hyz.trans hxy⟩
    have hpairwise := List.isChain_iff_pairwise.1 hlt
    exact ⟨List.pairwise_reverse.2 (hpairwise.imp le_of_lt),
      .reverse_of_ne (hpairwise.imp ne_of_gt)⟩

theorem insertSorted_sorts {run : List α} {x : α} (hbefore : Compares P rank before)
    (hrun : IsRun P rank run) (hx : P x) :
    ∃ after, insertSorted before run x = .ok after ∧ IsSorting rank (run ++ [x]) after := by
  have htest : ∀ y ∈ run, (do return !(← before x y)) =
      (.ok (decide (rank y ≤ rank x)) : Except Failure Bool) := fun y hy =>
    compares_not hbefore (hrun.items y hy) hx
  obtain ⟨front, rest, rfl, hfront, hrest, hspan⟩ :=
    splits_halvingSpan.cut htest (hrun.ordered.imp le_trans)
  obtain ⟨hordered, hordered_rest, hbetween⟩ := List.pairwise_append.1 hrun.ordered
  rw [insertSorted, hspan]
  refine ⟨_, rfl, ?_⟩
  rw [List.append_assoc]
  have hplaced : IsSorting rank (rest ++ ([x] ++ [])) ([x] ++ rest) := by
    refine .prepend (List.pairwise_singleton _ x) ?_ (by simp) ?_
    · intro y hy z hz
      obtain rfl := List.mem_singleton.1 hz
      exact not_le.1 (hrest y hy)
    · rw [List.append_nil]
      exact .of_ordered hordered_rest
  refine .prepend_first hordered ?_ hplaced
  intro y hy z hz
  rcases List.mem_append.1 hz with hz | hz
  · exact hbetween y hy z hz
  · exact hfront y hy |>.trans_eq (congrArg rank (List.mem_singleton.1 hz).symm)

theorem insertAll_sorts {items run : List α} (xs : List α) (hbefore : Compares P rank before)
    (hitems : ∀ x ∈ items, P x) (hxs : ∀ x ∈ xs, P x) (h : IsSorting rank items run) :
    ∃ after, xs.foldlM (insertSorted before) run = .ok after ∧
      IsSorting rank (items ++ xs) after := by
  induction xs generalizing items run with
  | nil =>
    rw [List.append_nil]
    exact ⟨run, rfl, h⟩
  | cons x xs ih =>
    obtain ⟨hx, hxs⟩ := List.forall_mem_cons.1 hxs
    obtain ⟨run', hinsert, hrun'⟩ := insertSorted_sorts hbefore (.of_isSorting hitems h) hx
    have hgrown : IsSorting rank (items ++ [x]) run' :=
      .of_rearranged (h.stable.append_right [x]) hrun'
    have hitems' : ∀ y ∈ items ++ [x], P y := by
      simpa [or_imp, forall_and] using ⟨hitems, hx⟩
    rw [List.foldlM_cons, hinsert, ok_bind, List.append_cons]
    exact ih hitems' hxs hgrown

theorem nextRun_sorts (least : Nat) (x : α) (items : List α) (hbefore : Compares P rank before)
    (hitems : ∀ z ∈ x :: items, P z) :
    ∃ cut run rest, nextRun before least (x :: items) = .ok (run, rest) ∧
      x :: items = cut ++ rest ∧ cut ≠ [] ∧ IsSorting rank cut run := by
  cases items with
  | nil =>
    exact ⟨[x], [x], [], rfl, rfl, List.cons_ne_nil _ _, .of_ordered (List.pairwise_singleton _ x)⟩
  | cons y items =>
    obtain ⟨hx, hy, hrest⟩ : P x ∧ P y ∧ ∀ z ∈ items, P z := by simpa using hitems
    obtain ⟨run, others, htake, rfl, hchain⟩ :=
      takeRun_chain (decide (rank y < rank x)) hbefore hy hrest
    have hstart := isSorting_of_chain (hchain.cons_cons rfl)
    have hsplit : x :: y :: (run ++ others) = x :: y :: run ++ others := rfl
    rw [hsplit] at hitems
    obtain ⟨after, hfold, hafter⟩ := insertAll_sorts (others.take (least - (x :: y :: run).length))
      hbefore (fun z hz => hitems z (List.mem_append_left _ hz))
      (fun z hz => hitems z (List.mem_append_right _ (List.mem_of_mem_take hz))) hstart
    refine ⟨_, after, others.drop (least - (x :: y :: run).length), ?_, ?_, by simp, hafter⟩
    · rw [nextRun, hbefore hy hx, ok_bind, htake, ok_bind]
      dsimp only
      rw [hfold]
      rfl
    · rw [List.append_assoc, List.take_append_drop]
      rfl

/-! ## Merging the runs -/

theorem IsRun.merge {first second : List α} (patience : Nat) (hbefore : Compares P rank before)
    (hfirst : IsRun P rank first) (hsecond : IsRun P rank second) :
    ∃ merged patience', mergeRuns before patience first second = .ok (merged, patience') ∧
      IsRun P rank merged ∧ Rearranged rank (first ++ second) merged := by
  obtain ⟨merged, patience', hmerge, hmerged⟩ := mergeRuns_sorts patience hbefore hfirst.items
    hsecond.items hfirst.ordered hsecond.ordered
  have hitems : ∀ x ∈ first ++ second, P x :=
    List.forall_mem_append.2 ⟨hfirst.items, hsecond.items⟩
  exact ⟨merged, patience', hmerge, .of_isSorting hitems hmerged, hmerged.stable⟩

/-- The items of the runs that wait, in the order of the list. -/
def laidOut (waiting : List (WaitingRun α)) : List α := (waiting.map (·.items)).reverse.flatten

theorem flatten_reverse_cons (run : List α) (runs : List (List α)) :
    (run :: runs).reverse.flatten = runs.reverse.flatten ++ run := by
  rw [List.reverse_cons, List.flatten_append, List.flatten_singleton]

theorem laidOut_cons (run : WaitingRun α) (waiting : List (WaitingRun α)) :
    laidOut (run :: waiting) = laidOut waiting ++ run.items :=
  flatten_reverse_cons run.items _

theorem mergeDeeper_sorts (depth patience : Nat) (last : List α) (waiting : List (WaitingRun α))
    (hbefore : Compares P rank before) (hlast : IsRun P rank last)
    (hwaiting : ∀ run ∈ waiting, IsRun P rank run.items) :
    ∃ merged waiting' patience', mergeDeeper before depth patience last waiting =
        .ok (merged, waiting', patience') ∧ IsRun P rank merged ∧
      (∀ run ∈ waiting', IsRun P rank run.items) ∧
      Rearranged rank (laidOut waiting ++ last) (laidOut waiting' ++ merged) := by
  induction waiting generalizing last patience with
  | nil => exact ⟨last, [], patience, rfl, hlast, hwaiting, .refl rank _⟩
  | cons run waiting ih =>
    obtain ⟨hrun, hrest⟩ := List.forall_mem_cons.1 hwaiting
    rw [mergeDeeper]
    split
    · obtain ⟨after, patience, hmerge, hafter, hstable⟩ := hrun.merge patience hbefore hlast
      obtain ⟨merged, waiting', patience', hdeeper, hmerged, hwaiting', hstable'⟩ :=
        ih patience after hafter hrest
      rw [hmerge]
      refine ⟨merged, waiting', patience', hdeeper, hmerged, hwaiting', ?_⟩
      rw [laidOut_cons, List.append_assoc]
      exact (hstable.append_left _).trans hstable'
    · exact ⟨last, run :: waiting, patience, rfl, hlast, hwaiting, .refl rank _⟩

theorem mergeWaiting_sorts (fuel patience : Nat) (runs : List (List α))
    (hbefore : Compares P rank before) (hruns : ∀ run ∈ runs, IsRun P rank run)
    (hfuel : runs.length ≤ fuel + 1) :
    ∃ after, mergeWaiting before fuel patience runs = .ok after ∧
      IsSorting rank runs.reverse.flatten after := by
  fun_induction mergeWaiting before fuel patience runs with
  | case1 => exact ⟨[], rfl, .of_ordered .nil⟩
  | case2 _ _ run =>
    rw [List.reverse_singleton, List.flatten_singleton]
    exact ⟨run, rfl, .of_ordered (hruns run List.mem_cons_self).ordered⟩
  | case3 _ runs hnil hsingle =>
    match runs with
    | [] => exact absurd rfl hnil
    | [run] => exact absurd rfl (hsingle run)
    | c :: b :: rest => simp at hfuel
  | case4 fuel patience c b a others _ ih =>
    obtain ⟨hc, hb, ha, hothers⟩ : IsRun P rank c ∧ IsRun P rank b ∧ IsRun P rank a ∧
      ∀ run ∈ others, IsRun P rank run := by simpa using hruns
    obtain ⟨merged, patience', hmerge, hmerged, hstable⟩ := ha.merge patience hbefore hb
    obtain ⟨after, hwaiting, hafter⟩ := ih merged patience'
      (by simpa using ⟨hc, hmerged, hothers⟩) (by simpa using hfuel)
    rw [hmerge]
    refine ⟨after, hwaiting, .of_rearranged ?_ hafter⟩
    simp only [flatten_reverse_cons, List.append_assoc _ a b]
    exact (hstable.append_left _).append_right c
  | case5 fuel patience c b a others _ ih =>
    obtain ⟨hc, hb, hrest⟩ : IsRun P rank c ∧ IsRun P rank b ∧
      ∀ run ∈ a :: others, IsRun P rank run := by simpa using hruns
    obtain ⟨merged, patience', hmerge, hmerged, hstable⟩ := hb.merge patience hbefore hc
    obtain ⟨after, hwaiting, hafter⟩ := ih merged patience'
      (List.forall_mem_cons.2 ⟨hmerged, hrest⟩) (by simpa using hfuel)
    rw [hmerge]
    refine ⟨after, hwaiting, .of_rearranged ?_ hafter⟩
    simp only [flatten_reverse_cons, List.append_assoc _ b c]
    exact hstable.append_left _
  | case6 fuel patience c b =>
    obtain ⟨hc, hb⟩ : IsRun P rank c ∧ IsRun P rank b := by simpa using hruns
    obtain ⟨merged, patience', hmerge, hmerged, hstable⟩ := hb.merge patience hbefore hc
    rw [hmerge]
    refine ⟨merged, rfl, .of_rearranged ?_ (.of_ordered hmerged.ordered)⟩
    simpa using hstable

theorem sortRuns_sorts (size fuel patience : Nat) (waiting : List (WaitingRun α)) (items : List α)
    (hbefore : Compares P rank before) (hwaiting : ∀ run ∈ waiting, IsRun P rank run.items)
    (hitems : ∀ x ∈ items, P x) (hfuel : items.length ≤ fuel) :
    ∃ after, sortRuns before size fuel patience waiting items = .ok after ∧
      IsSorting rank (laidOut waiting ++ items) after := by
  -- When no item is left, the runs that wait are merged.
  have hmerge (patience : Nat) {waiting : List (WaitingRun α)}
      (hwaiting : ∀ run ∈ waiting, IsRun P rank run.items) :
      ∃ after, mergeWaiting before waiting.length patience (waiting.map (·.items)) = .ok after ∧
        IsSorting rank (laidOut waiting ++ []) after := by
    rw [List.append_nil]
    exact mergeWaiting_sorts _ patience _ hbefore (List.forall_mem_map.2 hwaiting) (by simp)
  induction fuel generalizing patience waiting items with
  | zero =>
    obtain rfl := List.length_eq_zero_iff.1 (Nat.le_zero.1 hfuel)
    exact hmerge patience hwaiting
  | succ fuel ih =>
    cases items with
    | nil => exact hmerge patience hwaiting
    | cons x items =>
      obtain ⟨cut, run, rest, hnext, hsplit, hne, hrun⟩ :=
        nextRun_sorts (leastRun size false) x items hbefore hitems
      have hparts : (∀ z ∈ cut, P z) ∧ ∀ z ∈ rest, P z := by
        rw [hsplit] at hitems
        exact List.forall_mem_append.1 hitems
      have hfuel' : rest.length ≤ fuel := by
        have hlength := congrArg List.length hsplit
        have hpos := List.length_pos_iff.2 hne
        rw [List.length_append] at hlength
        omega
      have hcut := IsRun.of_isSorting hparts.1 hrun
      have hstable : Rearranged rank (x :: items) (run ++ rest) := by
        rw [hsplit]
        exact hrun.stable.append_right rest
      rw [sortRuns, hnext, ok_bind]
      cases waiting with
      | nil =>
        obtain ⟨after, hsort, hafter⟩ := ih patience [{ items := run }] rest (by simpa using hcut)
          hparts.2 hfuel'
        rw [laidOut_cons] at hafter
        exact ⟨after, hsort, .of_rearranged hstable hafter⟩
      | cons last waiting =>
        obtain ⟨hlast, hwaiting⟩ := List.forall_mem_cons.1 hwaiting
        dsimp only
        generalize depthBetween size size _ _ = depth
        obtain ⟨merged, waiting', patience', hdeeper, hmerged, hwaiting', hstable'⟩ :=
          mergeDeeper_sorts depth patience last.items waiting hbefore hlast hwaiting
        obtain ⟨after, hsort, hafter⟩ := ih patience'
          ({ items := run } :: { items := merged, depth } :: waiting') rest
          (by simpa using ⟨hcut, hmerged, hwaiting'⟩) hparts.2 hfuel'
        rw [hdeeper]
        refine ⟨after, hsort, .of_rearranged ?_ hafter⟩
        simp only [laidOut_cons, List.append_assoc (_ ++ merged)]
        exact hstable'.append hstable

/-- **Sorting gives the stable sorting.** -/
theorem sorted_sorts {items : List α} (hbefore : Compares P rank before)
    (hitems : ∀ x ∈ items, P x) :
    ∃ after, sorted before items = .ok after ∧ IsSorting rank items after :=
  sortRuns_sorts items.length items.length Merging.worthwhile [] items hbefore
    (List.forall_mem_nil _) hitems le_rfl

end SensorSeries
