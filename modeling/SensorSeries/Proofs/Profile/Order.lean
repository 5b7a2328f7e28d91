import Mathlib.Data.List.Find
import SensorSeries.Profile.Basic
import SensorSeries.Proofs.Order.Sorting
import SensorSeries.Proofs.Value.Keys

/-!
# The order of a profile

Levels whose bounds are missing, or quantities that hold a number or nothing, are compared by the
number of their start, where none comes before every number. So a profile is the stable sorting of
its levels by that number, and it does not matter whether the levels were given at once or added one
after the other (`built_at_once`). The first start with a number is the smallest one.
-/

namespace SensorSeries

namespace Datum

variable {a b : Datum} {p q : Position}

/-- Data that are numbers are compared by their places on the number line. -/
theorem numbers_compare (ha : a.number? = some (some p)) (hb : b.number? = some (some q)) :
    (a == b) = decide (p = q) ∧ a.before? b = some (decide (p < q)) := by
  have hanswers := (outcome_number ha hb).answers
  have hcanon : a.canon = a ∧ b.canon = b := ⟨(canon_of_number ha).1, (canon_of_number hb).1⟩
  rw [code_of_number ha, code_of_number hb] at hanswers
  constructor
  · change beqCanon a.canon b.canon = _
    rw [hcanon.1, hcanon.2, hanswers.1]
    simp
  · rw [before?, hcanon.1, hcanon.2, hanswers.2]
    simp [List.cons_lt_cons_iff, Token.number_lt_number]

end Datum

namespace ProfileLevel

/-! ## Bounds -/

/-- The bounds that can be told apart by a number: missing, or a quantity that holds a number or
nothing. A NaN is no number here. -/
inductive IsMeasured : Option Value → Prop
  | missing : IsMeasured none
  | empty {c : Component} (hkind : c.kind = .quantity) (hvalue : c.value = .null) :
    IsMeasured (some (.component c))
  | number {c : Component} {p : Position} (hkind : c.kind = .quantity)
    (hvalue : c.value.number? = some (some p)) : IsMeasured (some (.component c))

/-- The number of a bound; `⊥` if it holds none. -/
def numberOf (b : Option Value) : WithBot Position :=
  match bound b with
  | .ok d => d.number?.join.elim ⊥ (↑·)
  | .error _ => ⊥

theorem IsMeasured.cases {b : Option Value} (h : IsMeasured b) :
    (bound b = .ok .null ∧ numberOf b = ⊥) ∨
      ∃ d p, bound b = .ok d ∧ d.number? = some (some p) ∧ numberOf b = (p : WithBot Position) := by
  cases h with
  | missing => exact .inl ⟨rfl, rfl⟩
  | @empty c hkind hvalue =>
    have hbound : bound (some (.component c)) = .ok .null := congrArg Except.ok hvalue
    exact .inl ⟨hbound, by rw [numberOf, hbound]; rfl⟩
  | @number c p hkind hvalue =>
    have hbound : bound (some (.component c)) = .ok c.value := rfl
    exact .inr ⟨c.value, p, hbound, hvalue, by rw [numberOf, hbound]; simp only [hvalue]; rfl⟩

theorem compareStarts_null_left {d : Datum} {p : Option Position} (hd : d.number? = some p) :
    compareStarts .null d = .ok .lt := by
  cases d with
  | null => cases hd
  | _ => rfl

theorem compareStarts_null_right {d : Datum} {p : Option Position} (hd : d.number? = some p) :
    compareStarts d .null = .ok .gt := by
  cases d with
  | null => cases hd
  | _ => rfl

theorem compareStarts_of_numbers {x y : Datum} {p q : Position} (hx : x.number? = some (some p))
    (hy : y.number? = some (some q)) : compareStarts x y = .ok (cmp p q) := by
  obtain ⟨hsame, hbefore⟩ := Datum.numbers_compare hx hy
  have hordering : (if x == y then .ok .eq
      else do return if ← ordered (x.before? y) then .lt else .gt) = Except.ok (cmp p q) := by
    rw [hsame, hbefore]
    rcases lt_trichotomy p q with hlt | rfl | hlt
    · rw [(cmp_eq_lt_iff p q).2 hlt]
      simp [hlt, hlt.ne, ordered]
    · rw [cmp_self_eq_eq]
      simp
    · rw [(cmp_eq_gt_iff p q).2 hlt]
      simp [hlt.not_gt, hlt.ne', ordered]
  rw [← hordering]
  unfold compareStarts
  split
  · cases hx
  · cases hx
  · cases hy
  · rfl

theorem compare_eq {a b : ProfileLevel} (ha : IsMeasured a.start) (hb : IsMeasured b.start) :
    a.compare b = .ok (cmp (numberOf a.start) (numberOf b.start)) := by
  rw [compare]
  rcases ha.cases with ⟨hx, hp⟩ | ⟨x, p, hx, hxp, hp⟩
  · rcases hb.cases with ⟨hy, hq⟩ | ⟨y, q, hy, hyq, hq⟩
    · rw [hx, hy, hp, hq, cmp_self_eq_eq]
      rfl
    · rw [hx, hy, hp, hq, (cmp_eq_lt_iff _ _).2 (WithBot.bot_lt_coe q)]
      exact compareStarts_null_left hyq
  · rcases hb.cases with ⟨hy, hq⟩ | ⟨y, q, hy, hyq, hq⟩
    · rw [hx, hy, hp, hq, (cmp_eq_gt_iff _ _).2 (WithBot.bot_lt_coe p)]
      exact compareStarts_null_right hxp
    · rw [hx, hy, hp, hq]
      have hcmp : cmp (p : WithBot Position) q = cmp p q :=
        WithBot.coe_strictMono.cmp_map_eq p q
      rw [hcmp]
      exact compareStarts_of_numbers hxp hyq

theorem before_eq {a b : ProfileLevel} (ha : IsMeasured a.start) (hb : IsMeasured b.start) :
    a.before b = .ok (decide (numberOf a.start < numberOf b.start)) := by
  rw [before, compare_eq ha hb, ok_bind, pure_eq_ok, Bool.beq_eq_decide_eq]
  exact congrArg Except.ok (decide_eq_decide.2 (cmp_eq_lt_iff _ _))

end ProfileLevel

open ProfileLevel

/-! ## Sorting levels -/

/-- Levels as a profile keeps them: those without a start number first, then by increasing number of
the start, and in the order of their insertion where these are equal. -/
structure ProfileLevel.SortedFrom (insertion levels : List ProfileLevel) : Prop where
  perm : levels.Perm insertion
  missing_first : levels.Pairwise fun a b => numberOf b.start = ⊥ → numberOf a.start = ⊥
  increasing : levels.Pairwise fun a b => numberOf a.start ≤ numberOf b.start
  stable : Rearranged (numberOf ·.start) insertion levels

namespace ProfileItem

/-- What items of a profile are sorted by. -/
def standing : ProfileItem → WithBot Position
  | .level l => numberOf l.start
  | .other _ => ⊥

/-- A level whose start can be compared. -/
def IsComparable (item : ProfileItem) : Prop := ∃ l, item = .level l ∧ IsMeasured l.start

theorem before_compares : Compares IsComparable standing before := by
  intro x y hx hy
  obtain ⟨a, rfl, ha⟩ := hx
  obtain ⟨b, rfl, hb⟩ := hy
  exact before_eq ha hb

theorem exists_levels {items : List ProfileItem} (h : ∀ item ∈ items, item.IsComparable) :
    ∃ levels : List ProfileLevel, items = levels.map .level := by
  induction items with
  | nil => exact ⟨[], rfl⟩
  | cons item items ih =>
    obtain ⟨hitem, hitems⟩ := List.forall_mem_cons.1 h
    obtain ⟨l, rfl, -⟩ := hitem
    obtain ⟨levels, rfl⟩ := ih hitems
    exact ⟨l :: levels, rfl⟩

/-- The sorting of levels that can be compared. -/
theorem sorted_levels {levels : List ProfileLevel} (h : ∀ l ∈ levels, IsMeasured l.start) :
    ∃ after : List ProfileLevel, sorted before (levels.map .level) = .ok (after.map .level) ∧
      IsSorting (numberOf ·.start) levels after := by
  have hitems : ∀ item ∈ levels.map .level, IsComparable item := by
    intro item hitem
    obtain ⟨l, hl, rfl⟩ := List.mem_map.1 hitem
    exact ⟨l, rfl, h l hl⟩
  obtain ⟨items, hsorted, hitems'⟩ := sorted_sorts before_compares hitems
  obtain ⟨after, rfl⟩ := exists_levels fun item hitem => hitems item (hitems'.mem_iff.1 hitem)
  exact ⟨after, hsorted, .of_map (fun a b => level.inj) hitems'⟩

end ProfileItem

namespace Profile

/-! ## The first of the greatest -/

section Best

variable {β : Type} [LinearOrder β] {number : Value × Datum → β}
  {beats : Datum → Datum → Except Failure Bool} {entries : List (Value × Datum)}

/-- The first of the greatest. -/
def IsFirstGreatest (number : Value × Datum → β) (entries : List (Value × Datum))
    (e : Value × Datum) : Prop :=
  ∃ front rest, entries = front ++ e :: rest ∧ (∀ k ∈ front, number k < number e) ∧
    ∀ k ∈ rest, number k ≤ number e

theorem IsFirstGreatest.mem {e : Value × Datum} (h : IsFirstGreatest number entries e) :
    e ∈ entries := by
  obtain ⟨front, rest, rfl, -, -⟩ := h
  exact List.mem_append_right _ List.mem_cons_self

/-- The next entry is kept if it is greater. -/
theorem IsFirstGreatest.append {e k : Value × Datum} (h : IsFirstGreatest number entries e) :
    IsFirstGreatest number (entries ++ [k]) (if number e < number k then k else e) := by
  obtain ⟨front, rest, rfl, hfront, hrest⟩ := h
  split
  · next hlt =>
    refine ⟨front ++ e :: rest, [], rfl, ?_, List.forall_mem_nil _⟩
    intro x hx
    rcases List.mem_append.1 hx with hx | hx
    · exact (hfront x hx).trans hlt
    · rcases List.mem_cons.1 hx with rfl | hx
      · exact hlt
      · exact (hrest x hx).trans_lt hlt
  · next hle =>
    refine ⟨front, rest ++ [k], by simp, hfront, ?_⟩
    intro x hx
    rcases List.mem_append.1 hx with hx | hx
    · exact hrest x hx
    · rw [List.mem_singleton.1 hx]
      exact not_lt.1 hle

theorem IsFirstGreatest.find?_eq {e : Value × Datum} (h : IsFirstGreatest number entries e) :
    entries.find? (fun e => ∀ k ∈ entries, number k ≤ number e) = some e := by
  obtain ⟨front, rest, rfl, hfront, hrest⟩ := h
  rw [List.find?_eq_some_iff_append]
  refine ⟨decide_eq_true ?_, front, rest, rfl, ?_⟩
  · intro k hk
    rcases List.mem_append.1 hk with hk | hk
    · exact (hfront k hk).le
    · rcases List.mem_cons.1 hk with rfl | hk
      · exact le_rfl
      · exact hrest k hk
  · intro k hk
    have hnot : ¬ ∀ x ∈ front ++ e :: rest, number x ≤ number k := fun hall =>
      (hall e (by simp)).not_gt (hfront k hk)
    simpa using hnot

/-- What is kept of a list is the first of its greatest entries. -/
theorem best_eq (h : ∀ e ∈ entries, ∀ k ∈ entries,
      beats e.2 k.2 = .ok (decide (number k < number e))) :
    best beats entries =
      .ok ((entries.find? fun e => ∀ k ∈ entries, number k ≤ number e).map (·.1)) := by
  have hfold (kept : Value × Datum) (done rest : List (Value × Datum))
      (hsplit : entries = done ++ rest) (hkept : IsFirstGreatest number done kept) :
      ∃ e, rest.foldlM (fun (kept : Value × Datum) entry => do
          return if ← beats entry.2 kept.2 then entry else kept) kept = .ok e ∧
        IsFirstGreatest number entries e := by
    induction rest generalizing kept done with
    | nil =>
      rw [hsplit, List.append_nil]
      exact ⟨kept, rfl, hkept⟩
    | cons entry rest ih =>
      have hmem : entry ∈ entries := by simp [hsplit]
      have hkept_mem : kept ∈ entries := by
        rw [hsplit]
        exact List.mem_append_left _ hkept.mem
      obtain ⟨e, hrest, he⟩ := ih (if number kept < number entry then entry else kept)
        (done ++ [entry]) (by simp [hsplit]) hkept.append
      refine ⟨e, ?_, he⟩
      rw [List.foldlM_cons, h entry hmem kept hkept_mem]
      simpa using hrest
  cases entries with
  | nil => rfl
  | cons first rest =>
    have hstart : IsFirstGreatest number [first] first :=
      ⟨[], [], rfl, List.forall_mem_nil _, List.forall_mem_nil _⟩
    obtain ⟨e, hrest, he⟩ := hfold first [first] rest rfl hstart
    rw [best, hrest, he.find?_eq]
    rfl

/-- The first entry is kept if no other beats it. -/
theorem best_head (h : entries.Pairwise fun k e => beats e.2 k.2 = .ok false) :
    best beats entries = .ok (entries.head?.map (·.1)) := by
  cases entries with
  | nil => rfl
  | cons first rest =>
    have hfirst := (List.pairwise_cons.1 h).1
    have hrest : rest.foldlM (fun (kept : Value × Datum) entry => do
        return if ← beats entry.2 kept.2 then entry else kept) first =
        (.ok first : Except Failure _) := by
      clear h
      induction rest with
      | nil => rfl
      | cons entry rest ih =>
        obtain ⟨hentry, hrest⟩ := List.forall_mem_cons.1 hfirst
        rw [List.foldlM_cons, hentry]
        exact ih hrest
    rw [best, hrest]
    rfl

end Best

/-! ## Bounds with a number -/

/-- The entry of a bound that holds a number. -/
def entryOf (b : Option Value) : Option (Value × Datum) :=
  b.bind fun v => (v.content.toOption.filter (·.number?.isSome)).map fun d => (v, d)

variable {f : ProfileLevel → Option Value} {levels : List ProfileLevel}

theorem eq_of_entryOf {b : Option Value} {e : Value × Datum} (h : entryOf b = some e) :
    b = some e.1 := by
  cases b with
  | none => cases h
  | some v =>
    obtain ⟨d, -, rfl⟩ := Option.map_eq_some_iff.1 h
    rfl

theorem entryOf_some {v : Value} (h : IsMeasured (some v)) :
    (v.content = .ok .null ∧ entryOf (some v) = none ∧ numberOf (some v) = ⊥) ∨
      ∃ d p, v.content = .ok d ∧ entryOf (some v) = some (v, d) ∧ d.number? = some (some p) ∧
        numberOf (some v) = (p : WithBot Position) := by
  rcases h.cases with ⟨hcontent, hnumber⟩ | ⟨d, p, hcontent, hd, hnumber⟩
  · have hcontent : v.content = .ok .null := hcontent
    refine .inl ⟨hcontent, ?_, hnumber⟩
    rw [entryOf, Option.bind_some, hcontent]
    rfl
  · have hcontent : v.content = .ok d := hcontent
    refine .inr ⟨d, p, hcontent, ?_, hd, hnumber⟩
    rw [entryOf, Option.bind_some, hcontent, toOption_ok, Option.filter_some, hd]
    rfl

theorem entryOf_eq_none_iff {b : Option Value} (h : IsMeasured b) :
    entryOf b = none ↔ numberOf b = ⊥ := by
  cases b with
  | none => exact iff_of_true rfl rfl
  | some v =>
    rcases entryOf_some h with ⟨-, hentry, hnumber⟩ | ⟨d, p, -, hentry, -, hnumber⟩
    · simp [hentry, hnumber]
    · simp [hentry, hnumber]

theorem number_of_entryOf {b : Option Value} {e : Value × Datum} (h : IsMeasured b)
    (he : entryOf b = some e) :
    ∃ p, e.2.number? = some (some p) ∧ numberOf b = (p : WithBot Position) := by
  cases b with
  | none => cases he
  | some v =>
    rcases entryOf_some h with ⟨-, hentry, -⟩ | ⟨d, p, -, hentry, hd, hnumber⟩
    · cases hentry.symm.trans he
    · cases hentry.symm.trans he
      exact ⟨p, hd, hnumber⟩

theorem numbered_eq (h : ∀ l ∈ levels, IsMeasured (f l)) :
    numbered f (levels.map .level) = .ok (levels.filterMap fun l => entryOf (f l)) := by
  induction levels with
  | nil => rfl
  | cons l levels ih =>
    obtain ⟨hl, hlevels⟩ := List.forall_mem_cons.1 h
    have hrest := ih hlevels
    rw [List.map_cons, numbered, ProfileItem.asLevel, ok_bind, List.filterMap_cons]
    generalize f l = b at hl
    cases b with
    | none => exact hrest
    | some v =>
      dsimp only
      rcases entryOf_some hl with ⟨hcontent, hentry, -⟩ | ⟨d, p, hcontent, hentry, hd, -⟩
      · rw [hcontent, hentry]
        exact hrest
      · rw [hcontent, hentry, ok_bind, hrest]
        cases d with
        | null => cases hd
        | _ => rfl

theorem find?_entries (q : Value × Datum → Bool) :
    ((levels.filterMap fun l => entryOf (f l)).find? q).map (·.1) =
      (levels.find? fun l => (entryOf (f l)).any q).bind f := by
  rw [List.find?_filterMap, Option.map_bind]
  cases hfind : levels.find? fun l => (entryOf (f l)).any q with
  | none => rfl
  | some l =>
    have hany : (entryOf (f l)).any q = true := by simpa using List.find?_some hfind
    obtain ⟨e, he, -⟩ := (Option.any_eq_true _ _).1 hany
    rw [Option.bind_some, Option.bind_some, Function.comp_apply, he, eq_of_entryOf he]
    rfl

theorem best_eq_none_iff {beats : Datum → Datum → Except Failure Bool}
    {entries : List (Value × Datum)} : best beats entries = .ok none ↔ entries = [] := by
  cases entries with
  | nil => simp [best]
  | cons first rest =>
    constructor
    · intro h
      obtain ⟨e, -, he⟩ := bind_eq_ok.1 h
      cases he
    · intro h
      cases h

/-- A bound is found unless no level has one with a number. -/
theorem best_numbered_eq_none_iff {beats : Datum → Datum → Except Failure Bool}
    (h : ∀ l ∈ levels, IsMeasured (f l)) :
    (numbered f (levels.map .level) >>= best beats) = .ok none ↔
      ∀ l ∈ levels, numberOf (f l) = ⊥ := by
  rw [numbered_eq h, ok_bind, best_eq_none_iff, List.filterMap_eq_nil_iff]
  exact forall₂_congr fun l hl => entryOf_eq_none_iff (h l hl)

/-- The start is that of the first level that has one with a number. -/
theorem minStart_eq {p : Profile} (hitems : p.items = levels.map .level)
    (h : ∀ l ∈ levels, IsMeasured l.start)
    (hordered : levels.Pairwise fun a b => numberOf a.start ≤ numberOf b.start) :
    p.minStart = .ok ((levels.find? fun l => numberOf l.start ≠ ⊥).bind (·.start)) := by
  have hbest : (levels.filterMap fun l => entryOf l.start).Pairwise fun k e =>
      ordered (e.2.before? k.2) = .ok false := by
    rw [List.pairwise_filterMap]
    refine hordered.imp_of_mem fun {a b} ha hb hle => ?_
    intro k hk e he
    obtain ⟨x, hx, hax⟩ := number_of_entryOf (h a ha) hk
    obtain ⟨y, hy, hby⟩ := number_of_entryOf (h b hb) he
    rw [hax, hby, WithBot.coe_le_coe] at hle
    rw [(Datum.numbers_compare hy hx).2, decide_eq_false hle.not_gt]
    rfl
  have hhead (es : List (Value × Datum)) : es.head? = es.find? fun _ => true := by
    cases es <;> rfl
  rw [minStart, hitems, numbered_eq h, ok_bind, best_head hbest, hhead, find?_entries]
  congr 2
  refine List.find?_congr fun l hl => ?_
  cases hentry : entryOf l.start with
  | none => simp [(entryOf_eq_none_iff (h l hl)).1 hentry]
  | some e =>
    obtain ⟨x, -, hx⟩ := number_of_entryOf (h l hl) hentry
    simp [hx]

/-- The end is that of the first level whose end has the greatest number. -/
theorem maxStop_eq {p : Profile} (hitems : p.items = levels.map .level)
    (h : ∀ l ∈ levels, IsMeasured l.stop) :
    p.maxStop = .ok ((levels.find? fun l => numberOf l.stop ≠ ⊥ ∧
      ∀ k ∈ levels, numberOf k.stop ≤ numberOf l.stop).bind (·.stop)) := by
  have hbest : ∀ e ∈ levels.filterMap fun l => entryOf l.stop,
      ∀ k ∈ levels.filterMap fun l => entryOf l.stop,
      ordered (k.2.before? e.2) =
        .ok (decide (numberOf (some k.1) < numberOf (some e.1))) := by
    intro e he k hk
    obtain ⟨a, ha, he⟩ := List.mem_filterMap.1 he
    obtain ⟨b, hb, hk⟩ := List.mem_filterMap.1 hk
    obtain ⟨x, hx, hax⟩ := number_of_entryOf (h a ha) he
    obtain ⟨y, hy, hby⟩ := number_of_entryOf (h b hb) hk
    rw [(Datum.numbers_compare hy hx).2, ← eq_of_entryOf he, ← eq_of_entryOf hk, hax, hby]
    simp [ordered]
  rw [maxStop, hitems, numbered_eq h, ok_bind, best_eq hbest, find?_entries]
  congr 2
  refine List.find?_congr fun l hl => ?_
  cases hentry : entryOf l.stop with
  | none => simp [(entryOf_eq_none_iff (h l hl)).1 hentry]
  | some e =>
    obtain ⟨x, -, hx⟩ := number_of_entryOf (h l hl) hentry
    rw [Option.any_some, decide_eq_decide, ← eq_of_entryOf hentry]
    constructor
    · intro hall
      refine ⟨hx ▸ WithBot.coe_ne_bot, fun k hk => ?_⟩
      -- A level without an end number has no entry, and stands below all others.
      cases hk' : entryOf k.stop with
      | none =>
        rw [(entryOf_eq_none_iff (h k hk)).1 hk']
        exact bot_le
      | some e' =>
        rw [eq_of_entryOf hk']
        exact hall e' (List.mem_filterMap.2 ⟨k, hk, hk'⟩)
    · intro hall e' he'
      obtain ⟨k, hk, hk'⟩ := List.mem_filterMap.1 he'
      rw [← eq_of_entryOf hk']
      exact hall.2 k hk

/-! ## Building a profile -/

theorem ofItems_levels {levels : List ProfileLevel} (unit : UnitOfMeasure)
    (h : ∀ l ∈ levels, IsMeasured l.start) :
    ∃ after : List ProfileLevel, ofItems (levels.map .level) unit = .ok ⟨after.map .level, unit⟩ ∧
      IsSorting (numberOf ·.start) levels after := by
  obtain ⟨after, hsorted, hafter⟩ := ProfileItem.sorted_levels h
  refine ⟨after, ?_, hafter⟩
  rw [ofItems, hsorted]
  rfl

/-- A level that is added to a sorting is sorted into it. -/
theorem add_level {levels inserted : List ProfileLevel} {l : ProfileLevel} (unit : UnitOfMeasure)
    (hinserted : ∀ k ∈ inserted, IsMeasured k.start) (hl : IsMeasured l.start)
    (h : IsSorting (numberOf ·.start) inserted levels) :
    ∃ after : List ProfileLevel, Attempt.result (add ⟨levels.map .level, unit⟩ (.level l)) =
        .ok ⟨after.map .level, unit⟩ ∧
      IsSorting (numberOf ·.start) (inserted ++ [l]) after := by
  have hlevels : ∀ k ∈ levels ++ [l], IsMeasured k.start := by
    refine List.forall_mem_append.2 ⟨fun k hk => hinserted k (h.mem_iff.1 hk), ?_⟩
    simpa using hl
  obtain ⟨after, hsorted, hafter⟩ := ProfileItem.sorted_levels hlevels
  refine ⟨after, ?_, .of_rearranged (h.stable.append_right [l]) hafter⟩
  rw [List.map_append, List.map_singleton] at hsorted
  dsimp only [add]
  rw [hsorted]
  rfl

theorem addAll_levels {levels inserted : List ProfileLevel} (unit : UnitOfMeasure)
    (ys : List ProfileLevel) (hinserted : ∀ k ∈ inserted, IsMeasured k.start)
    (hys : ∀ l ∈ ys, IsMeasured l.start)
    (h : IsSorting (numberOf ·.start) inserted levels) :
    ∃ after : List ProfileLevel, addAll ⟨levels.map .level, unit⟩ (ys.map .level) =
        .ok ⟨after.map .level, unit⟩ ∧
      IsSorting (numberOf ·.start) (inserted ++ ys) after := by
  induction ys generalizing levels inserted with
  | nil =>
    rw [List.append_nil]
    exact ⟨levels, rfl, h⟩
  | cons l ys ih =>
    obtain ⟨hl, hys⟩ := List.forall_mem_cons.1 hys
    obtain ⟨after, hadd, hafter⟩ := add_level unit hinserted hl h
    have hinserted' : ∀ k ∈ inserted ++ [l], IsMeasured k.start :=
      List.forall_mem_append.2 ⟨hinserted, by simpa using hl⟩
    obtain ⟨last, hrest, hlast⟩ := ih hinserted' hys hafter
    refine ⟨last, ?_, List.append_cons inserted l ys ▸ hlast⟩
    rw [addAll, List.map_cons, List.foldlM_cons, hadd, ok_bind]
    exact hrest

/-- **A profile may be built level by level or at once.** Both ways give the same levels in the same
order: without start number first, then by increasing start number, and as inserted where these are
equal. The smallest start is that of the first level that has a start number, the greatest end that
of the first level whose end number is greatest. -/
theorem built_at_once (xs ys : List ProfileLevel) (unit : UnitOfMeasure)
    (h : ∀ l ∈ xs ++ ys, IsMeasured l.start ∧ IsMeasured l.stop) :
    ∃ (levels : List ProfileLevel) (p : Profile), p = ⟨levels.map .level, unit⟩ ∧
      (ofItems (xs.map .level) unit >>= (addAll · (ys.map .level))) = .ok p ∧
      ofItems ((xs ++ ys).map .level) unit = .ok p ∧ ProfileLevel.SortedFrom (xs ++ ys) levels ∧
      p.minStart = .ok ((levels.find? fun l => numberOf l.start ≠ ⊥).bind (·.start)) ∧
      (p.minStart = .ok none ↔ ∀ l ∈ levels, numberOf l.start = ⊥) ∧
      p.maxStop = .ok ((levels.find? fun l => numberOf l.stop ≠ ⊥ ∧
        ∀ k ∈ levels, numberOf k.stop ≤ numberOf l.stop).bind (·.stop)) ∧
      (p.maxStop = .ok none ↔ ∀ l ∈ levels, numberOf l.stop = ⊥) := by
  have hstarts : ∀ l ∈ xs ++ ys, IsMeasured l.start := fun l hl => (h l hl).1
  obtain ⟨hxs, hys⟩ := List.forall_mem_append.1 hstarts
  obtain ⟨levels, honce, hlevels⟩ := ofItems_levels unit hstarts
  obtain ⟨first, hfirst, hsorting⟩ := ofItems_levels unit hxs
  obtain ⟨after, hadded, hafter⟩ := addAll_levels unit ys hxs hys hsorting
  obtain rfl := hafter.unique hlevels
  have hmeasured : ∀ l ∈ after, IsMeasured l.start ∧ IsMeasured l.stop := fun l hl =>
    h l (hlevels.mem_iff.1 hl)
  have hstarts' : ∀ l ∈ after, IsMeasured l.start := fun l hl => (hmeasured l hl).1
  have hstops : ∀ l ∈ after, IsMeasured l.stop := fun l hl => (hmeasured l hl).2
  refine ⟨after, _, rfl, ?_, honce, ⟨hlevels.stable.perm, ?_, hlevels.ordered, hlevels.stable⟩,
    minStart_eq rfl hstarts' hlevels.ordered, best_numbered_eq_none_iff hstarts',
    maxStop_eq rfl hstops, best_numbered_eq_none_iff hstops⟩
  · rw [hfirst]
    exact hadded
  · exact hlevels.ordered.imp fun hle hbot => le_bot_iff.1 (hbot ▸ hle)

/-- Two levels whose starts are equal, as a number and as a truth value, and two without a start
number: the ones that were added last come behind their equals. -/
theorem built_at_once_tied :
    let quantity (d : Datum) := some (Value.quantity d .missing)
    let a : ProfileLevel := { start := quantity (.int 1), stop := quantity (.int 10) }
    let b : ProfileLevel := { stop := quantity .null }
    let c : ProfileLevel := { start := quantity (.bool true), stop := quantity (.int 20) }
    let d : ProfileLevel := { start := quantity .null }
    let p : Profile := ⟨[b, d, a, c].map .level, .missing⟩
    (∀ l ∈ [a, b] ++ [c, d], IsMeasured l.start ∧ IsMeasured l.stop) ∧
      (ofItems ([a, b].map .level) .missing >>= (addAll · ([c, d].map .level))) = .ok p ∧
      ofItems ([a, b, c, d].map .level) .missing = .ok p ∧ p.minStart = .ok a.start ∧
      p.maxStop = .ok c.stop := by
  intro quantity a b c d p
  have hmeasured : ∀ l ∈ [a, b] ++ [c, d], IsMeasured l.start ∧ IsMeasured l.stop := by
    have hempty : IsMeasured (quantity .null) := .empty rfl rfl
    have hint (n : Int) : IsMeasured (quantity (.int n)) := .number rfl rfl
    have htrue : IsMeasured (quantity (.bool true)) := .number rfl rfl
    simp [a, b, c, d, hempty, hint, htrue, IsMeasured.missing]
  have ha : numberOf a.start = (Position.ofInt 1 : WithBot Position) := rfl
  have hb : numberOf b.start = ⊥ := rfl
  have hc : numberOf c.start = (Position.ofInt 1 : WithBot Position) := rfl
  have hd : numberOf d.start = ⊥ := rfl
  obtain ⟨levels, p', hp', hadded, honce, hsorted, hmin, -, hmax, -⟩ :=
    built_at_once [a, b] [c, d] .missing hmeasured
  have hlevels : levels = [b, d, a, c] := by
    have hordered : [b, d, a, c].Pairwise fun k l => numberOf k.start ≤ numberOf l.start := by
      simp [ha, hb, hc, hd]
    refine IsSorting.eq_of_ordered hsorted.increasing hordered fun n => ?_
    have hn := hsorted.stable n
    by_cases hbot : ⊥ = n
    · subst hbot
      simpa [ha, hb, hc, hd, eq_comm] using hn.symm
    · simpa [List.filter_cons, ha, hb, hc, hd, hbot] using hn.symm
  subst hlevels hp'
  refine ⟨hmeasured, hadded, honce, ?_, ?_⟩
  · rw [hmin]
    simp [ha, hb, hd]
  · have hten : numberOf a.stop = (Position.ofInt 10 : WithBot Position) := rfl
    have htwenty : numberOf c.stop = (Position.ofInt 20 : WithBot Position) := rfl
    have hlt : Position.ofInt 10 < Position.ofInt 20 := Position.lt_iff.1 (by decide +kernel)
    have hb' : numberOf b.stop = ⊥ := rfl
    have hd' : numberOf d.stop = ⊥ := rfl
    rw [hmax]
    simp [hten, htwenty, hb', hd', hlt, hlt.le]

end Profile

end SensorSeries
