import Mathlib.Data.Finset.Card
import Mathlib.Data.List.Pairwise
import SensorSeries.Parameter.Set
import SensorSeries.Proofs.Order.Halving
import SensorSeries.Proofs.Parameter.Order

/-!
# Parameter sets as mathematical sets

A set of ranked parameters stands for the set of their ranks (`Holds`): its items increase strictly,
so that no two are equal. Adding inserts a rank and removing erases one, and both keep this. What can
be told from outside is gathered in `IsSortedSet`.
-/

namespace SensorSeries

namespace ParameterSet

/-! ## Lists of ranked items -/

section Lists

variable {α β γ : Type}

theorem removeFirst_map (f : α → γ) (test : γ → Except Failure Bool) (items : List α) :
    removeFirst test (items.map f) = (do
      let items ← removeFirst (fun x => test (f x)) items
      return items.map f) := by
  induction items with
  | nil => rfl
  | cons x items ih =>
    rw [List.map_cons, removeFirst, removeFirst, ih]
    cases test (f x) with
    | error e => rfl
    | ok holds =>
      cases holds with
      | true => rfl
      | false => cases removeFirst (fun x => test (f x)) items <;> rfl

theorem anyM_eq_any {test : α → Except Failure Bool} {holds : α → Bool} {items : List α}
    (htest : ∀ x ∈ items, test x = .ok (holds x)) : items.anyM test = .ok (items.any holds) := by
  induction items with
  | nil => rfl
  | cons x items ih =>
    obtain ⟨hx, hitems⟩ := List.forall_mem_cons.1 htest
    rw [List.anyM, hx, ok_bind, List.any_cons]
    cases holds x with
    | true => rfl
    | false => exact ih hitems

/-- What is taken out passes the test. -/
theorem exists_of_removeFirst {test : α → Except Failure Bool} {items after : List α}
    (h : removeFirst test items = .ok after) :
    ∃ front x rest, items = front ++ x :: rest ∧ test x = .ok true ∧ after = front ++ rest := by
  induction items generalizing after with
  | nil => cases h
  | cons y items ih =>
    obtain ⟨holds, htest, hafter⟩ := bind_eq_ok.1 h
    cases holds with
    | true => exact ⟨[], y, items, rfl, htest, (Except.ok.inj hafter).symm⟩
    | false =>
      obtain ⟨kept, hkept, hcons⟩ := bind_eq_ok.1 hafter
      obtain ⟨front, x, rest, rfl, hx, rfl⟩ := ih hkept
      exact ⟨y :: front, x, rest, rfl, hx, (Except.ok.inj hcons).symm⟩

variable [DecidableEq β] {rank : α → β} {test : α → Except Failure Bool} {items : List α} {r : β}

theorem removeFirst_of_mem (htest : ∀ x ∈ items, test x = .ok (decide (rank x = r)))
    (hmem : r ∈ items.map rank) :
    ∃ front x rest, items = front ++ x :: rest ∧ rank x = r ∧
      removeFirst test items = .ok (front ++ rest) := by
  induction items with
  | nil => cases hmem
  | cons y items ih =>
    obtain ⟨hy, hitems⟩ := List.forall_mem_cons.1 htest
    by_cases hr : rank y = r
    · refine ⟨[], y, items, rfl, hr, ?_⟩
      rw [removeFirst, hy, decide_eq_true hr]
      rfl
    · have hrest : r ∈ items.map rank := by
        rcases List.mem_cons.1 hmem with heq | h
        · exact absurd heq.symm hr
        · exact h
      obtain ⟨front, x, rest, rfl, hx, hremove⟩ := ih hitems hrest
      refine ⟨y :: front, x, rest, rfl, hx, ?_⟩
      rw [removeFirst, hy, decide_eq_false hr, ok_bind, hremove]
      rfl

theorem removeFirst_of_not_mem (htest : ∀ x ∈ items, test x = .ok (decide (rank x = r)))
    (habsent : r ∉ items.map rank) : removeFirst test items = .error .absentMember := by
  induction items with
  | nil => rfl
  | cons y items ih =>
    obtain ⟨hy, hitems⟩ := List.forall_mem_cons.1 htest
    rw [List.map_cons, List.mem_cons, not_or] at habsent
    rw [removeFirst, hy, decide_eq_false (Ne.symm habsent.1), ok_bind, ih hitems habsent.2]
    rfl

end Lists

/-! ## Sets of ranks -/

variable {β : Type} [LinearOrder β] {P : Parameter → Prop} {rank : Parameter → β}
  {set : ParameterSet} {ranks : Finset β} {p q : Parameter} {front rest : List Parameter}

/-- The set holds one parameter of each of these ranks, smaller ranks first. -/
structure Holds (P : Parameter → Prop) (rank : Parameter → β) (set : ParameterSet)
    (ranks : Finset β) : Prop where
  within : ∀ p ∈ set.items, P p
  increasing : set.items.Pairwise fun p q => rank p < rank q
  mem_iff : ∀ r, r ∈ ranks ↔ r ∈ set.items.map rank

namespace Holds

theorem empty : Holds P rank ParameterSet.empty ∅ where
  within := List.forall_mem_nil _
  increasing := .nil
  mem_iff r := by simp [ParameterSet.empty]

theorem of_sorted (hranked : Parameter.Ranked P rank) (hwithin : ∀ p ∈ set.items, P p)
    (hsorted : set.items.Pairwise fun p q => p.before q = .ok true) :
    Holds P rank set (set.items.map rank).toFinset where
  within := hwithin
  increasing := by
    refine hsorted.imp_of_mem ?_
    intro p q hp hq hbefore
    rwa [hranked.before (hwithin p hp) (hwithin q hq), Except.ok.injEq, decide_eq_true_iff]
      at hbefore
  mem_iff r := List.mem_toFinset

/-- A new rank in its place. -/
theorem placed (hset : Holds P rank ⟨front ++ rest⟩ ranks) (hp : P p)
    (hfront : ∀ q ∈ front, rank q < rank p) (hrest : ∀ q ∈ rest, rank p < rank q) :
    Holds P rank ⟨front ++ p :: rest⟩ (insert (rank p) ranks) where
  within := by
    intro q hq
    rw [List.mem_append, List.mem_cons] at hq
    rcases hq with hq | rfl | hq
    · exact hset.within q (List.mem_append_left _ hq)
    · exact hp
    · exact hset.within q (List.mem_append_right _ hq)
  increasing := by
    obtain ⟨hleft, hright, hacross⟩ := List.pairwise_append.1 hset.increasing
    refine List.pairwise_append.2 ⟨hleft, List.pairwise_cons.2 ⟨hrest, hright⟩, ?_⟩
    intro a ha b hb
    rcases List.mem_cons.1 hb with rfl | hb
    · exact hfront a ha
    · exact hacross a ha b hb
  mem_iff := by
    intro r
    rw [Finset.mem_insert, hset.mem_iff]
    simp only [List.map_append, List.map_cons, List.mem_append, List.mem_cons]
    tauto

theorem dropped (hset : Holds P rank ⟨front ++ q :: rest⟩ ranks) :
    Holds P rank ⟨front ++ rest⟩ (ranks.erase (rank q)) where
  within := by
    intro p hp
    rcases List.mem_append.1 hp with hp | hp
    · exact hset.within p (List.mem_append_left _ hp)
    · exact hset.within p (List.mem_append_right _ (List.mem_cons_of_mem _ hp))
  increasing := by
    obtain ⟨hleft, hright, hacross⟩ := List.pairwise_append.1 hset.increasing
    refine List.pairwise_append.2 ⟨hleft, hright.of_cons, ?_⟩
    intro a ha b hb
    exact hacross a ha b (List.mem_cons_of_mem _ hb)
  mem_iff := by
    intro r
    obtain ⟨-, hright, hacross⟩ := List.pairwise_append.1 hset.increasing
    -- No other item has the rank that goes.
    have hfront : rank q ∉ front.map rank := by
      intro hmem
      obtain ⟨a, ha, heq⟩ := List.mem_map.1 hmem
      exact (hacross a ha q (List.mem_cons_self ..)).ne heq
    have hrest : rank q ∉ rest.map rank := by
      intro hmem
      obtain ⟨b, hb, heq⟩ := List.mem_map.1 hmem
      exact (List.rel_of_pairwise_cons hright hb).ne' heq
    rw [Finset.mem_erase, hset.mem_iff]
    simp only [List.map_append, List.map_cons, List.mem_append, List.mem_cons]
    constructor
    · tauto
    · rintro (h | h)
      · exact ⟨fun heq => hfront (heq ▸ h), .inl h⟩
      · exact ⟨fun heq => hrest (heq ▸ h), .inr (.inr h)⟩

theorem nodup_ranks (hset : Holds P rank set ranks) : (set.items.map rank).Nodup :=
  List.pairwise_map.2 (hset.increasing.imp fun h => h.ne)

theorem eq_of_rank_eq (hset : Holds P rank set ranks) (hp : p ∈ set.items) (hq : q ∈ set.items)
    (h : rank p = rank q) : p = q :=
  List.inj_on_of_nodup_map hset.nodup_ranks hp hq h

theorem size_eq (hset : Holds P rank set ranks) : set.size = ranks.card := by
  have hranks : ranks = (set.items.map rank).toFinset := by
    ext r
    rw [List.mem_toFinset, hset.mem_iff]
  rw [hranks, List.toFinset_card_of_nodup hset.nodup_ranks, List.length_map, ParameterSet.size]

variable (hranked : Parameter.Ranked P rank) (hset : Holds P rank set ranks) (hp : P p)
include hranked hset hp

theorem same_eq : ∀ q ∈ set.items, q.same p = .ok (decide (rank q = rank p)) :=
  fun q hq => hranked.same (hset.within q hq) hp

theorem before_eq : ∀ q ∈ set.items, q.before p = .ok (decide (rank q < rank p)) :=
  fun q hq => hranked.before (hset.within q hq) hp

theorem contains_eq : set.contains p = .ok (decide (rank p ∈ ranks)) := by
  rw [ParameterSet.contains, anyM_eq_any (hset.same_eq hranked hp)]
  refine congrArg Except.ok ?_
  rw [Bool.eq_iff_iff, List.any_eq_true, decide_eq_true_iff, hset.mem_iff, List.mem_map]
  simp only [decide_eq_true_eq]

theorem add_of_mem (hmem : rank p ∈ ranks) : set.add p = .ok set := by
  have hput := putBetween_of_mem hset.increasing (hset.before_eq hranked hp)
    (hset.same_eq hranked hp) ((hset.mem_iff _).1 hmem)
  rw [ParameterSet.add, hput]
  rfl

theorem add_of_not_mem (hnew : rank p ∉ ranks) :
    ∃ front rest, set.items = front ++ rest ∧ set.add p = .ok ⟨front ++ p :: rest⟩ ∧
      Holds P rank ⟨front ++ p :: rest⟩ (insert (rank p) ranks) := by
  obtain ⟨front, rest, hitems, hfront, hrest, hput⟩ :=
    putBetween_of_not_mem hset.increasing (hset.before_eq hranked hp) (hset.same_eq hranked hp)
      (fun hmem => hnew ((hset.mem_iff _).2 hmem))
  refine ⟨front, rest, hitems, ?_, ?_⟩
  · rw [ParameterSet.add, hput]
    rfl
  · obtain rfl : set = ⟨front ++ rest⟩ := congrArg ParameterSet.mk hitems
    exact hset.placed hp hfront hrest

/-- Adding a parameter keeps all that are there. -/
theorem add_frame :
    ∃ after, set.add p = .ok after ∧ Holds P rank after (insert (rank p) ranks) ∧
      (∀ q ∈ set.items, q ∈ after.items) ∧ (∀ q ∈ after.items, q ∈ set.items ∨ q = p) ∧
      ∀ test : Parameter → Bool, test p = false →
        after.items.filter test = set.items.filter test := by
  by_cases hmem : rank p ∈ ranks
  · refine ⟨set, hset.add_of_mem hranked hp hmem, ?_, fun q hq => hq, fun q hq => .inl hq, ?_⟩
    · rwa [Finset.insert_eq_of_mem hmem]
    · exact fun test _ => rfl
  · obtain ⟨front, rest, hitems, hadd, hafter⟩ := hset.add_of_not_mem hranked hp hmem
    refine ⟨_, hadd, hafter, ?_, ?_, ?_⟩
    · intro q hq
      rw [hitems, List.mem_append] at hq
      rw [List.mem_append, List.mem_cons]
      tauto
    · intro q hq
      rw [List.mem_append, List.mem_cons] at hq
      rw [hitems, List.mem_append]
      tauto
    · intro test htest
      rw [hitems, List.filter_append, List.filter_append,
        List.filter_cons_of_neg (by rw [htest]; exact Bool.false_ne_true)]

/-- Whatever is added, it is among the ranks afterwards. -/
theorem add : ∃ after, set.add p = .ok after ∧ Holds P rank after (insert (rank p) ranks) := by
  obtain ⟨after, hadd, hafter, -⟩ := hset.add_frame hranked hp
  exact ⟨after, hadd, hafter⟩

theorem remove_of_mem (hmem : rank p ∈ ranks) :
    ∃ front q rest, set.items = front ++ q :: rest ∧ rank q = rank p ∧
      set.remove p = .ok ⟨front ++ rest⟩ ∧ Holds P rank ⟨front ++ rest⟩ (ranks.erase (rank p)) := by
  obtain ⟨front, q, rest, hitems, hq, hremove⟩ :=
    removeFirst_of_mem (hset.same_eq hranked hp) ((hset.mem_iff _).1 hmem)
  refine ⟨front, q, rest, hitems, hq, ?_, ?_⟩
  · rw [ParameterSet.remove, hremove]
    rfl
  · obtain rfl : set = ⟨front ++ q :: rest⟩ := congrArg ParameterSet.mk hitems
    rw [← hq]
    exact hset.dropped

theorem remove_of_not_mem (habsent : rank p ∉ ranks) : set.remove p = .error .absentMember := by
  have hremove := removeFirst_of_not_mem (hset.same_eq hranked hp)
    (fun hmem => habsent ((hset.mem_iff _).2 hmem))
  rw [ParameterSet.remove, hremove]
  rfl

/-- What is removed was among the ranks, and is not afterwards. -/
theorem remove {after : ParameterSet} (hremove : set.remove p = .ok after) :
    Holds P rank after (ranks.erase (rank p)) := by
  by_cases hmem : rank p ∈ ranks
  · obtain ⟨front, q, rest, -, -, hok, hafter⟩ := hset.remove_of_mem hranked hp hmem
    obtain rfl := Except.ok.inj (hok.symm.trans hremove)
    exact hafter
  · cases (hset.remove_of_not_mem hranked hp hmem).symm.trans hremove

end Holds

theorem Holds.addAll (hranked : Parameter.Ranked P rank) (hset : Holds P rank set ranks)
    {ps : List Parameter} (hps : ∀ p ∈ ps, P p) :
    ∃ after, ps.foldlM ParameterSet.add set = .ok after ∧
      Holds P rank after (ranks ∪ (ps.map rank).toFinset) := by
  induction ps generalizing set ranks with
  | nil =>
    refine ⟨set, rfl, ?_⟩
    rwa [List.map_nil, List.toFinset_nil, Finset.union_empty]
  | cons p ps ih =>
    obtain ⟨hp, hrest⟩ := List.forall_mem_cons.1 hps
    obtain ⟨next, hadd, hnext⟩ := hset.add hranked hp
    obtain ⟨after, hfold, hafter⟩ := ih hnext hrest
    refine ⟨after, ?_, ?_⟩
    · rw [List.foldlM_cons, hadd, ok_bind, hfold]
    · rwa [List.map_cons, List.toFinset_cons, Finset.union_insert, ← Finset.insert_union]

theorem holds_ofList (hranked : Parameter.Ranked P rank) {ps : List Parameter}
    (hps : ∀ p ∈ ps, P p) :
    ∃ set, ofList ps = .ok set ∧ Holds P rank set (ps.map rank).toFinset := by
  obtain ⟨set, hfold, hset⟩ := Holds.empty.addAll hranked hps
  rw [Finset.empty_union] at hset
  exact ⟨set, hfold, hset⟩

/-! ## Sorted sets -/

/-- What the operations tell of a sorted set of these ranks. -/
structure IsSortedSet (P : Parameter → Prop) (rank : Parameter → β) (set : ParameterSet)
    (ranks : Finset β) : Prop where
  within : ∀ p ∈ set.items, P p
  increasing : set.items.Pairwise fun p q => p.before q = .ok true
  distinct : set.items.Pairwise fun p q => p.same q = .ok false
  contains : ∀ p, P p → set.contains p = .ok (decide (rank p ∈ ranks))
  size : set.size = ranks.card
  /-- An equal parameter is not added: the one that is there stays. -/
  add_known : ∀ p, P p → rank p ∈ ranks → set.add p = .ok set
  add_new : ∀ p, P p → rank p ∉ ranks → ∃ front rest, set.items = front ++ rest ∧
    set.add p = .ok ⟨front ++ p :: rest⟩
  remove_known : ∀ p, P p → rank p ∈ ranks → ∃ front q rest, set.items = front ++ q :: rest ∧
    q.same p = .ok true ∧ set.remove p = .ok ⟨front ++ rest⟩
  remove_unknown : ∀ p, P p → rank p ∉ ranks → set.remove p = .error .absentMember

theorem Holds.isSortedSet (hranked : Parameter.Ranked P rank) (hset : Holds P rank set ranks) :
    IsSortedSet P rank set ranks where
  within := hset.within
  increasing := by
    refine hset.increasing.imp_of_mem ?_
    intro p q hp hq hlt
    rw [hranked.before (hset.within p hp) (hset.within q hq), decide_eq_true hlt]
  distinct := by
    refine hset.increasing.imp_of_mem ?_
    intro p q hp hq hlt
    rw [hranked.same (hset.within p hp) (hset.within q hq), decide_eq_false hlt.ne]
  contains p hp := hset.contains_eq hranked hp
  size := hset.size_eq
  add_known p hp := hset.add_of_mem hranked hp
  add_new := by
    intro p hp hnew
    obtain ⟨front, rest, hitems, hadd, -⟩ := hset.add_of_not_mem hranked hp hnew
    exact ⟨front, rest, hitems, hadd⟩
  remove_known := by
    intro p hp hmem
    obtain ⟨front, q, rest, hitems, hq, hremove, -⟩ := hset.remove_of_mem hranked hp hmem
    refine ⟨front, q, rest, hitems, ?_, hremove⟩
    rw [hset.same_eq hranked hp q (by simp [hitems]), decide_eq_true hq]
  remove_unknown p hp := hset.remove_of_not_mem hranked hp

end ParameterSet

end SensorSeries
