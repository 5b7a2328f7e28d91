import SensorSeries.Failure

/-!
# Halving

`halvingSpan` splits a list where a test stops to hold, as `span` does, but looks only at the middle
item of what is left. It finds the place that `span` finds when no item that passes the test comes
after one that does not. In every case the two parts make up the list.
-/

namespace SensorSeries

variable {α : Type}

/-- The items before the place where the test stops to hold, and the others. -/
def halvingSpan (test : α → Except Failure Bool) (items : List α) :
    Except Failure (List α × List α) :=
  match _split : items.drop (items.length / 2) with
  | [] => .ok ([], items)
  | middle :: right => do
    if ← test middle then
      let (front, rest) ← halvingSpan test right
      return (items.take (items.length / 2) ++ middle :: front, rest)
    else
      let (front, rest) ← halvingSpan test (items.take (items.length / 2))
      return (front, rest ++ middle :: right)
termination_by items.length
decreasing_by
  · have := congrArg List.length _split
    simp only [List.length_drop, List.length_cons] at this
    omega
  · have := congrArg List.length _split
    simp only [List.length_drop, List.length_cons] at this
    simp only [List.length_take]
    omega

/-- Puts an item behind those that stand below it, unless the one behind them is equal to it. -/
def putBetween (below equal : α → Except Failure Bool) (x : α) (items : List α) :
    Except Failure (List α) := do
  let (front, rest) ← halvingSpan below items
  match rest with
  | [] => return front ++ [x]
  | y :: _ =>
    if ← equal y then return items
    return front ++ x :: rest

/-- No item is lost, and the order stays. -/
theorem append_of_halvingSpan {test : α → Except Failure Bool} {items front rest : List α}
    (h : halvingSpan test items = .ok (front, rest)) : front ++ rest = items := by
  fun_induction halvingSpan test items generalizing front rest with
  | case1 items _ => simp_all
  | case2 items middle right hd ihRight ihLeft =>
    have split : items.take (items.length / 2) ++ middle :: right = items := by
      rw [← hd, List.take_append_drop]
    cases ht : test middle with
    | error e => simp [ht, bind, Except.bind] at h
    | ok holds =>
      cases holds with
      | true =>
        cases hr : halvingSpan test right with
        | error e => simp [ht, hr, bind, Except.bind] at h
        | ok parts =>
          obtain ⟨f, r⟩ := parts
          simp only [ht, hr, bind, Except.bind, pure, Except.pure, if_true, Except.ok.injEq,
            Prod.mk.injEq] at h
          obtain ⟨rfl, rfl⟩ := h
          rw [List.append_assoc, List.cons_append, ihRight hr, split]
      | false =>
        cases hl : halvingSpan test (items.take (items.length / 2)) with
        | error e => simp [ht, hl, bind, Except.bind] at h
        | ok parts =>
          obtain ⟨f, r⟩ := parts
          simp [ht, hl, bind, Except.bind, pure, Except.pure] at h
          obtain ⟨rfl, rfl⟩ := h
          rw [← List.append_assoc, ihLeft hl, split]

end SensorSeries
