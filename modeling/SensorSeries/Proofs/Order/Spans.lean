import SensorSeries.Order.Galloping
import SensorSeries.Proofs.Order.Halving

/-!
# Ways to split a list

Halving, from either side, and galloping look at different items, and find the same place: the one
where a test stops to hold, if it holds for no item behind that place (`Splits`).
-/

namespace SensorSeries

variable {α : Type}

/-- The search finds the place where a test stops to hold. -/
def Splits (search : SpanSearch α) : Prop :=
  ∀ ⦃test : α → Except Failure Bool⦄ ⦃front rest : List α⦄, (∀ x ∈ front, test x = .ok true) →
    (∀ x ∈ rest, test x = .ok false) → search test (front ++ rest) = .ok (front, rest)

theorem splits_halvingSpan : Splits (@halvingSpan α) := fun _ _ _ => halvingSpan_append

theorem splits_halvingSpanBack : Splits (@halvingSpanBack α) := by
  intro test front rest hfront hrest
  have hspan : halvingSpan (fun x => do return !(← test x)) (front ++ rest).reverse =
      .ok (rest.reverse, front.reverse) := by
    rw [List.reverse_append]
    apply halvingSpan_append
    · intro x hx
      simp [hrest x (List.mem_reverse.1 hx)]
    · intro x hx
      simp [hfront x (List.mem_reverse.1 hx)]
  rw [halvingSpanBack, hspan]
  simp

theorem splits_gallopOn {search : SpanSearch α} (hsearch : Splits search) (leap : Nat) :
    Splits fun test items => gallopOn search test leap items := by
  intro test front rest hfront hrest
  dsimp only
  generalize hitems : front ++ rest = items
  fun_induction gallopOn search test leap items generalizing front rest with
  | case1 leap items hdrop =>
    subst hitems
    exact hsearch hfront hrest
  | case2 leap items x behind hdrop ih =>
    have hsplit : front ++ rest = items.take leap ++ x :: behind := by
      rw [hitems, ← hdrop, List.take_append_drop]
    rcases cut_before_or_after hsplit with ⟨within, hleft, rfl⟩ | ⟨within, rfl, rfl⟩
    · have hfalse : test x = .ok false := hrest x (by simp)
      have hspan : search test (items.take leap) = .ok (front, within) := by
        rw [hleft]
        exact hsearch hfront fun y hy => hrest y (by simp [hy])
      rw [hfalse, ok_bind, hspan]
      rfl
    · have htrue : test x = .ok true := hfront x (by simp)
      have hspan := ih (fun y hy => hfront y (by simp [hy])) hrest rfl
      rw [htrue, ok_bind, hspan]
      rfl

theorem splits_gallopSpan {search : SpanSearch α} (hsearch : Splits search) :
    Splits (gallopSpan search) := by
  intro test front rest hfront hrest
  cases front with
  | nil =>
    cases rest with
    | nil => rfl
    | cons x rest => simp [gallopSpan, hrest x List.mem_cons_self]
  | cons x front =>
    obtain ⟨hx, hfront⟩ := List.forall_mem_cons.1 hfront
    have hspan : gallopOn search test 0 (front ++ rest) = .ok (front, rest) :=
      splits_gallopOn hsearch 0 hfront hrest
    simp [gallopSpan, hx, hspan]

/-- In a list where a property stops once, a search for it cuts there. -/
theorem Splits.cut {search : SpanSearch α} (hsearch : Splits search) {q : α → Prop}
    [DecidablePred q] {test : α → Except Failure Bool} {items : List α}
    (htest : ∀ x ∈ items, test x = .ok (decide (q x)))
    (hitems : items.Pairwise fun x y => q y → q x) :
    ∃ front rest, items = front ++ rest ∧ (∀ x ∈ front, q x) ∧ (∀ x ∈ rest, ¬ q x) ∧
      search test items = .ok (front, rest) := by
  obtain ⟨front, rest, rfl, hfront, hrest⟩ := exists_cut hitems
  refine ⟨front, rest, rfl, hfront, hrest, hsearch ?_ ?_⟩
  · intro x hx
    rw [htest x (List.mem_append_left _ hx), decide_eq_true (hfront x hx)]
  · intro x hx
    rw [htest x (List.mem_append_right _ hx), decide_eq_false (hrest x hx)]

end SensorSeries
