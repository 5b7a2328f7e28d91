import Mathlib.Data.List.Basic
import Mathlib.Order.Lattice
import SensorSeries.Order.Halving
import SensorSeries.Proofs.Answers

/-!
# Places found by halving

Where no item that passes the test comes after one that does not, halving finds the place between
them. In a list of strictly increasing ranks it finds the place of a new rank, so that `putBetween`
leaves the list as it is if the rank is there, and else puts the new item between the smaller ranks
and the greater ones.
-/

namespace SensorSeries

variable {α β γ : Type}

/-! ## Splitting -/

theorem eq_nil_of_drop_half {items : List α} (h : items.drop (items.length / 2) = []) :
    items = [] := by
  have := List.drop_eq_nil_iff.1 h
  exact List.length_eq_zero_iff.1 (by omega)

/-- An item in the middle stands behind the place where a list is cut, or in front of it. -/
theorem cut_before_or_after {front rest left right : List α} {x : α}
    (h : front ++ rest = left ++ x :: right) :
    (∃ within, left = front ++ within ∧ rest = within ++ x :: right) ∨
      ∃ within, front = left ++ x :: within ∧ right = within ++ rest := by
  rcases List.append_eq_append_iff.1 h with ⟨within, hleft, hrest⟩ | ⟨within, hfront, hright⟩
  · exact .inl ⟨within, hleft, hrest⟩
  · cases within with
    | nil => exact .inl ⟨[], by rw [hfront, List.append_nil, List.append_nil], hright.symm⟩
    | cons y within =>
      obtain ⟨rfl, rfl⟩ := List.cons.inj hright
      exact .inr ⟨within, hfront, rfl⟩

/-- Where a property is never had by a later item without the earlier ones, there is one place where
it stops. -/
theorem exists_cut {q : α → Prop} {items : List α} (h : items.Pairwise fun x y => q y → q x) :
    ∃ front rest, items = front ++ rest ∧ (∀ x ∈ front, q x) ∧ ∀ x ∈ rest, ¬ q x := by
  induction items with
  | nil => exact ⟨[], [], rfl, by simp, by simp⟩
  | cons x items ih =>
    obtain ⟨hhead, htail⟩ := List.pairwise_cons.1 h
    by_cases hx : q x
    · obtain ⟨front, rest, rfl, hfront, hrest⟩ := ih htail
      exact ⟨x :: front, rest, rfl, List.forall_mem_cons.2 ⟨hx, hfront⟩, hrest⟩
    · refine ⟨[], x :: items, rfl, by simp, List.forall_mem_cons.2 ⟨hx, ?_⟩⟩
      intro y hy hq
      exact hx (hhead y hy hq)

theorem halvingSpan_append {test : α → Except Failure Bool} {front rest : List α}
    (hfront : ∀ x ∈ front, test x = .ok true) (hrest : ∀ x ∈ rest, test x = .ok false) :
    halvingSpan test (front ++ rest) = .ok (front, rest) := by
  generalize hitems : front ++ rest = items
  fun_induction halvingSpan test items generalizing front rest with
  | case1 items hdrop =>
    obtain rfl := eq_nil_of_drop_half hdrop
    obtain ⟨rfl, rfl⟩ := List.append_eq_nil_iff.1 hitems
    rfl
  | case2 items middle right hdrop ihRight ihLeft =>
    have hsplit : front ++ rest = items.take (items.length / 2) ++ middle :: right := by
      rw [hitems, ← hdrop, List.take_append_drop]
    rcases cut_before_or_after hsplit with ⟨within, hleft, rfl⟩ | ⟨within, rfl, rfl⟩
    · have hfalse : test middle = .ok false := hrest middle (by simp)
      have hspan := ihLeft hfront (fun x hx => hrest x (by simp [hx])) hleft.symm
      rw [hfalse, ok_bind, hspan]
      rfl
    · have htrue : test middle = .ok true := hfront middle (by simp)
      have hspan := ihRight (fun x hx => hfront x (by simp [hx])) hrest rfl
      rw [htrue, ok_bind, hspan]
      rfl

theorem halvingSpan_nil (test : α → Except Failure Bool) : halvingSpan test [] = .ok ([], []) :=
  halvingSpan_append (List.forall_mem_nil _) (List.forall_mem_nil _)

theorem halvingSpan_middle {test : α → Except Failure Bool} {items right : List α} {middle : α}
    (h : items.drop (items.length / 2) = middle :: right) :
    halvingSpan test items = (do
      if ← test middle then
        let (front, rest) ← halvingSpan test right
        return (items.take (items.length / 2) ++ middle :: front, rest)
      else
        let (front, rest) ← halvingSpan test (items.take (items.length / 2))
        return (front, rest ++ middle :: right)) := by
  rw [halvingSpan]
  split
  · simp_all
  · simp_all

theorem halvingSpan_map (f : α → γ) (test : γ → Except Failure Bool) (items : List α) :
    halvingSpan test (items.map f) = (do
      let (front, rest) ← halvingSpan (fun x => test (f x)) items
      return (front.map f, rest.map f)) := by
  fun_induction halvingSpan (fun x => test (f x)) items with
  | case1 items hdrop =>
    obtain rfl := eq_nil_of_drop_half hdrop
    rw [List.map_nil, halvingSpan_nil]
    rfl
  | case2 items middle right hdrop ihRight ihLeft =>
    have hmap : (items.map f).drop ((items.map f).length / 2) = f middle :: right.map f := by
      rw [List.length_map, ← List.map_drop, hdrop, List.map_cons]
    rw [halvingSpan_middle hmap, List.length_map, ← List.map_take, ihRight, ihLeft]
    cases test (f middle) with
    | error e => rfl
    | ok holds =>
      cases holds with
      | true =>
        cases halvingSpan (fun x => test (f x)) right with
        | error e => rfl
        | ok parts => simp [List.map_append]
      | false =>
        cases halvingSpan (fun x => test (f x)) (items.take (items.length / 2)) with
        | error e => rfl
        | ok parts => simp [List.map_append]

theorem putBetween_map (f : α → γ) (below equal : γ → Except Failure Bool) (x : α)
    (items : List α) : putBetween below equal (f x) (items.map f) = (do
      let items ← putBetween (fun y => below (f y)) (fun y => equal (f y)) x items
      return items.map f) := by
  rw [putBetween, putBetween, halvingSpan_map]
  cases halvingSpan (fun y => below (f y)) items with
  | error e => rfl
  | ok parts =>
    obtain ⟨front, rest⟩ := parts
    cases rest with
    | nil => simp
    | cons y rest =>
      cases hequal : equal (f y) with
      | error e => simp [hequal]
      | ok holds => cases holds <;> simp [hequal]

/-- Whatever the tests tell, either nothing is put into the list or the item is. -/
theorem eq_or_exists_of_putBetween {below equal : α → Except Failure Bool} {x : α}
    {items after : List α} (h : putBetween below equal x items = .ok after) :
    after = items ∨ ∃ front rest, items = front ++ rest ∧ after = front ++ x :: rest := by
  obtain ⟨⟨front, rest⟩, hspan, hput⟩ := bind_eq_ok.1 h
  have hitems := append_of_halvingSpan hspan
  cases rest with
  | nil => exact .inr ⟨front, [], hitems.symm, (Except.ok.inj hput).symm⟩
  | cons y rest =>
    obtain ⟨known, -, hkept⟩ := bind_eq_ok.1 hput
    cases known with
    | true => exact .inl (Except.ok.inj hkept).symm
    | false => exact .inr ⟨front, y :: rest, hitems.symm, (Except.ok.inj hkept).symm⟩

/-! ## Increasing ranks -/

section Ranks

variable [LinearOrder β] {rank : α → β} {below equal : α → Except Failure Bool} {x : α}
  {items front rest : List α}

theorem exists_place (hsorted : items.Pairwise fun p q => rank p < rank q) (r : β) :
    ∃ front rest, items = front ++ rest ∧ (∀ q ∈ front, rank q < r) ∧ ∀ q ∈ rest, r ≤ rank q := by
  obtain ⟨front, rest, hitems, hfront, hrest⟩ :=
    exists_cut (q := fun q => rank q < r) (hsorted.imp fun hlt hr => hlt.trans hr)
  exact ⟨front, rest, hitems, hfront, fun q hq => not_lt.1 (hrest q hq)⟩

theorem halvingSpan_place
    (hbelow : ∀ q ∈ front ++ rest, below q = .ok (decide (rank q < rank x)))
    (hfront : ∀ q ∈ front, rank q < rank x) (hrest : ∀ q ∈ rest, rank x ≤ rank q) :
    halvingSpan below (front ++ rest) = .ok (front, rest) := by
  apply halvingSpan_append
  · intro q hq
    rw [hbelow q (List.mem_append_left _ hq), decide_eq_true (hfront q hq)]
  · intro q hq
    rw [hbelow q (List.mem_append_right _ hq), decide_eq_false (hrest q hq).not_gt]

/-- An item of a rank that is there already is left out. -/
theorem putBetween_of_mem (hsorted : items.Pairwise fun p q => rank p < rank q)
    (hbelow : ∀ q ∈ items, below q = .ok (decide (rank q < rank x)))
    (hequal : ∀ q ∈ items, equal q = .ok (decide (rank q = rank x)))
    (hmem : rank x ∈ items.map rank) : putBetween below equal x items = .ok items := by
  obtain ⟨front, rest, rfl, hfront, hrest⟩ := exists_place hsorted (rank x)
  obtain ⟨q, hq, hqx⟩ := List.mem_map.1 hmem
  have hqrest : q ∈ rest := by
    rcases List.mem_append.1 hq with hq | hq
    · exact absurd hqx (hfront q hq).ne
    · exact hq
  cases rest with
  | nil => cases hqrest
  | cons y rest =>
    -- The first rank that is not smaller is the least of those, so it is the rank itself.
    have hy : rank y = rank x := by
      have hyq : rank y ≤ rank q := by
        rcases List.mem_cons.1 hqrest with rfl | hq
        · exact le_rfl
        · exact (List.rel_of_pairwise_cons (List.pairwise_append.1 hsorted).2.1 hq).le
      exact le_antisymm (hyq.trans hqx.le) (hrest y (by simp))
    rw [putBetween, halvingSpan_place hbelow hfront hrest, ok_bind]
    simp only [hequal y (by simp), hy, decide_true, ok_bind, if_true, pure_eq_ok]

/-- An item of a new rank comes between the smaller ranks and the greater ones. -/
theorem putBetween_of_not_mem (hsorted : items.Pairwise fun p q => rank p < rank q)
    (hbelow : ∀ q ∈ items, below q = .ok (decide (rank q < rank x)))
    (hequal : ∀ q ∈ items, equal q = .ok (decide (rank q = rank x)))
    (hnew : rank x ∉ items.map rank) :
    ∃ front rest, items = front ++ rest ∧ (∀ q ∈ front, rank q < rank x) ∧
      (∀ q ∈ rest, rank x < rank q) ∧
      putBetween below equal x items = .ok (front ++ x :: rest) := by
  obtain ⟨front, rest, rfl, hfront, hrest⟩ := exists_place hsorted (rank x)
  have hne : ∀ q ∈ rest, rank q ≠ rank x := by
    intro q hq heq
    exact hnew (List.mem_map.2 ⟨q, List.mem_append_right _ hq, heq⟩)
  refine ⟨front, rest, rfl, hfront, fun q hq => lt_of_le_of_ne (hrest q hq) (hne q hq).symm, ?_⟩
  rw [putBetween, halvingSpan_place hbelow hfront hrest, ok_bind]
  cases rest with
  | nil => rfl
  | cons y rest =>
    simp [hequal y (by simp), hne y (by simp)]

end Ranks

end SensorSeries
