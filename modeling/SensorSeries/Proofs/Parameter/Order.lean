import Mathlib.Order.Defs.LinearOrder
import SensorSeries.Parameter.Basic
import SensorSeries.Proofs.Answers
import SensorSeries.Proofs.Value.Keys

/-!
# The order of named values

Named values are compared by their keys, name first. Where any two keys are alike the comparisons
are those of a linear order (`Parameter.Ranked`), and so none of them fails. Regular named values are
ranked by the codes of their keys, if a missing kind of geometry demands the same depth as an empty
one (`ranked_regular`): the key takes the two for one kind.
-/

namespace SensorSeries

namespace NamedValue

open SensorSeries.Datum

/-- Whether the value is missing or regular. -/
def IsRegular (depth : Option String → Nat) (n : NamedValue) : Prop :=
  ∀ v ∈ n.value, v.IsRegular depth

/-- What a named value is ranked by; without a key it has no rank of its own. -/
def code (n : NamedValue) : List Token := (n.key.toOption.map (·.canon.code)).getD []

/-- Whether the names are both missing or the same; missing texts in them count as empty ones. -/
def SameName : Option Reference → Option Reference → Prop
  | none, none => True
  | some r, some s => r.href.getD "" = s.href.getD "" ∧ r.title.getD "" = s.title.getD ""
  | _, _ => False

/-- Whether the values are both missing or the same, if all NaNs count as one. -/
def SameValue : Option Value → Option Value → Prop
  | none, none => True
  | some v, some w => v.SameButNaN w
  | _, _ => False

variable {depth : Option String → Nat} {a b c : NamedValue} {k l : Datum}

/-! ## Names -/

theorem canon_nameKey (n : NamedValue) : n.nameKey.canon = n.nameKey := by
  unfold nameKey
  cases n.name <;> rfl

theorem alike_nameKey (a b : NamedValue) : Alike a.nameKey b.nameKey := by
  unfold nameKey
  cases a.name with
  | none =>
    cases b.name with
    | none => exact .tagged fun _ => .nilLeft _
    | some s => exact .tagged fun _ => .nilLeft _
  | some r =>
    cases b.name with
    | none => exact .tagged fun _ => .nilRight _
    | some s =>
      exact .tagged fun _ => .cons (.text _ _) fun _ => .cons (.text _ _) fun _ => .nilLeft _

theorem beq_nameKey_iff (a b : NamedValue) :
    beqCanon a.nameKey b.nameKey = true ↔ SameName a.name b.name := by
  unfold nameKey
  cases a.name with
  | none =>
    cases b.name with
    | none => simp [SameName, beqCanon_tagged, beqAll]
    | some s => simp [SameName, beqCanon_tagged]
  | some r =>
    cases b.name with
    | none => simp [SameName, beqCanon_tagged]
    | some s => simp [SameName, Reference.keyParts, beqCanon_tagged, beqAll, beqCanon_text]

/-! ## Values -/

theorem IsRegular.exists_valueKey (h : a.IsRegular depth) :
    ∃ k, Value.optionKey a.value = .ok k := by
  unfold IsRegular at h
  cases hv : a.value with
  | none => exact ⟨_, rfl⟩
  | some v =>
    obtain ⟨content, unit, name, definition, hkey, -⟩ := (h v hv).exists_key
    exact ⟨_, hkey⟩

/-- A missing value has the shortest key of all, so it is alike with every other and equal to none. -/
theorem IsRegular.compare_valueKey (hdepth : depth none = depth (some "")) (ha : a.IsRegular depth)
    (hb : b.IsRegular depth) (hk : Value.optionKey a.value = .ok k)
    (hl : Value.optionKey b.value = .ok l) :
    Alike k.canon l.canon ∧ (beqCanon k.canon l.canon = true ↔ SameValue a.value b.value) := by
  unfold IsRegular at ha hb
  cases hv : a.value with
  | none =>
    rw [hv] at hk
    cases hk
    cases hw : b.value with
    | none =>
      rw [hw] at hl
      cases hl
      exact ⟨.tuple (.cons (.text _ _) fun _ => .nilLeft _), iff_of_true rfl trivial⟩
    | some w =>
      rw [hw] at hl
      obtain ⟨x, xs, hcanon⟩ := (hb w hw).exists_canon hl
      rw [hcanon]
      refine ⟨.tuple (.cons (.text _ _) fun _ => .nilLeft _), ?_⟩
      simp [SameValue, canon, canonAll, beqCanon_tuple, beqAll]
  | some v =>
    rw [hv] at hk
    cases hw : b.value with
    | none =>
      rw [hw] at hl
      cases hl
      obtain ⟨x, xs, hcanon⟩ := (ha v hv).exists_canon hk
      rw [hcanon]
      refine ⟨.tuple (.cons (.text _ _) fun _ => .nilRight _), ?_⟩
      simp [SameValue, canon, canonAll, beqCanon_tuple, beqAll]
    | some w =>
      rw [hw] at hl
      exact ⟨(ha v hv).alike_key hdepth (hb w hw) hk hl, (ha v hv).beq_key_iff (hb w hw) hk hl⟩

/-! ## Named values -/

theorem key_eq (hk : Value.optionKey a.value = .ok k) : a.key = .ok (.tuple [a.nameKey, k]) := by
  rw [key, hk]
  rfl

theorem canon_pair (a : NamedValue) (k : Datum) :
    (Datum.tuple [a.nameKey, k]).canon = .tuple [a.nameKey, k.canon] := by
  rw [canon, canonAll_eq_map, List.map_cons, List.map_singleton, canon_nameKey]

theorem code_eq (hk : Value.optionKey a.value = .ok k) :
    a.code = (Datum.tuple [a.nameKey, k]).canon.code := by
  rw [code, key_eq hk]
  rfl

theorem IsRegular.alike_key (hdepth : depth none = depth (some "")) (ha : a.IsRegular depth)
    (hb : b.IsRegular depth) (hk : Value.optionKey a.value = .ok k)
    (hl : Value.optionKey b.value = .ok l) :
    Alike (Datum.tuple [a.nameKey, k]).canon (Datum.tuple [b.nameKey, l]).canon := by
  rw [canon_pair, canon_pair]
  exact .tuple (.cons (alike_nameKey a b) fun _ =>
    .cons (ha.compare_valueKey hdepth hb hk hl).1 fun _ => .nilLeft _)

theorem IsRegular.before_eq (hdepth : depth none = depth (some "")) (ha : a.IsRegular depth)
    (hb : b.IsRegular depth) :
    (Parameter.named a).before (.named b) = .ok (decide (a.code < b.code)) := by
  obtain ⟨k, hk⟩ := ha.exists_valueKey
  obtain ⟨l, hl⟩ := hb.exists_valueKey
  have hbefore := (ha.alike_key hdepth hb hk hl).outcome.answers.2
  rw [Parameter.before, key_eq hk, key_eq hl, code_eq hk, code_eq hl, ok_bind, ok_bind,
    Datum.before?, hbefore]
  exact congrArg Except.ok (decide_eq_decide.2 .rfl)

theorem IsRegular.same_eq (hdepth : depth none = depth (some "")) (ha : a.IsRegular depth)
    (hb : b.IsRegular depth) :
    (Parameter.named a).same (.named b) = .ok (decide (a.code = b.code)) := by
  obtain ⟨k, hk⟩ := ha.exists_valueKey
  obtain ⟨l, hl⟩ := hb.exists_valueKey
  have hsame := (ha.alike_key hdepth hb hk hl).outcome.answers.1
  rw [Parameter.same, key_eq hk, key_eq hl, code_eq hk, code_eq hl]
  exact congrArg Except.ok (hsame.trans (decide_eq_decide.2 .rfl))

theorem IsRegular.same_iff (hdepth : depth none = depth (some "")) (ha : a.IsRegular depth)
    (hb : b.IsRegular depth) : (Parameter.named a).same (.named b) = .ok true ↔
      SameName a.name b.name ∧ SameValue a.value b.value := by
  obtain ⟨k, hk⟩ := ha.exists_valueKey
  obtain ⟨l, hl⟩ := hb.exists_valueKey
  rw [Parameter.same, key_eq hk, key_eq hl, ok_bind, ok_bind, pure_eq_ok, Except.ok.injEq]
  change beqCanon (Datum.tuple [a.nameKey, k]).canon (Datum.tuple [b.nameKey, l]).canon = true ↔ _
  rw [canon_pair, canon_pair, beqCanon_tuple, beqAll, beqAll, beqAll, Bool.and_true,
    Bool.and_eq_true, beq_nameKey_iff, (ha.compare_valueKey hdepth hb hk hl).2]

/-- **Regular named values are totally ordered.** No comparison of two of them fails, and exactly one
of them comes before the other unless they are equal; the order is transitive; and they are equal
when their names are and their values are, if all NaNs count as one. -/
theorem totally_ordered (hdepth : depth none = depth (some "")) (ha : a.IsRegular depth)
    (hb : b.IsRegular depth) (hc : c.IsRegular depth) :
    let relations := Parameter.relations (.named a) (.named b)
    (∃ o : Ordering, relations.before = .ok (o == .lt) ∧ relations.same = .ok (o == .eq) ∧
      (Parameter.named b).before (.named a) = .ok (o == .gt) ∧
      relations.after = .ok (o == .gt) ∧ relations.notAfter = .ok (o != .gt) ∧
      relations.notBefore = .ok (o != .lt)) ∧
    ((Parameter.named a).before (.named b) = .ok true →
      (Parameter.named b).before (.named c) = .ok true →
      (Parameter.named a).before (.named c) = .ok true) ∧
    ((Parameter.named a).same (.named b) = .ok true ↔
      SameName a.name b.name ∧ SameValue a.value b.value) := by
  refine ⟨?_, ?_, ha.same_iff hdepth hb⟩
  · unfold Parameter.relations Relations.ofBefore
    simp only [ha.before_eq hdepth hb, ha.same_eq hdepth hb, hb.before_eq hdepth ha]
    rcases lt_trichotomy a.code b.code with hlt | heq | hgt
    · refine ⟨.lt, ?_⟩
      simp [hlt, hlt.ne, hlt.not_gt]
    · refine ⟨.eq, ?_⟩
      simp [heq]
    · refine ⟨.gt, ?_⟩
      simp [hgt, hgt.ne', hgt.not_gt]
  · rw [ha.before_eq hdepth hb, hb.before_eq hdepth hc, ha.before_eq hdepth hc]
    simp only [Except.ok.injEq, decide_eq_true_eq]
    exact lt_trans

/-- A count, a geometry and a NaN of one name: the count comes before the geometry, the geometry
before the NaN, and so the count before the NaN. -/
theorem totally_ordered_three :
    let name := Reference.ofText "height"
    let unit := UnitOfMeasure.missing
    let point : Geometry := ⟨.text "Point", .list [.int 1, .bool true], .int 4326⟩
    let a : NamedValue := ⟨some name, some (.component { kind := .count, value := .int 1, unit })⟩
    let b : NamedValue := ⟨some name, some (.geometry (some point) unit)⟩
    let c : NamedValue := ⟨some name, some (.quantity (.num .nan) unit)⟩
    (∃ o : Ordering, (Parameter.named a).before (.named b) = .ok (o == .lt) ∧
      (Parameter.named a).same (.named b) = .ok (o == .eq)) ∧
      (Parameter.named a).before (.named c) = .ok true := by
  intro name unit point a b c
  have hunit : unit.IsText := ⟨none, rfl⟩
  have hpoint : point.IsRegular fun _ => 1 := by
    refine ⟨⟨some "Point", rfl, [.int 1, .bool true], rfl, ?_⟩, .inr ⟨_, rfl⟩⟩
    intro x hx
    rcases List.mem_pair.1 hx with rfl | rfl
    · exact ⟨_, rfl⟩
    · exact ⟨_, rfl⟩
  have ha : a.IsRegular fun _ => 1 := by
    rintro _ ⟨⟩
    exact ⟨⟨1, [.int 1], .number rfl⟩, hunit⟩
  have hb : b.IsRegular fun _ => 1 := by
    rintro _ ⟨⟩
    refine ⟨?_, hunit⟩
    rintro _ ⟨⟩
    exact hpoint
  have hc : c.IsRegular fun _ => 1 := by
    rintro _ ⟨⟩
    exact ⟨⟨4, [], .nan⟩, hunit⟩
  have hab : (Parameter.named a).before (.named b) = .ok true :=
    toOption_eq_some.1 (by decide +kernel)
  have hbc : (Parameter.named b).before (.named c) = .ok true :=
    toOption_eq_some.1 (by decide +kernel)
  obtain ⟨⟨o, hbefore, hsame, -⟩, htrans, -⟩ := totally_ordered rfl ha hb hc
  exact ⟨⟨o, hbefore, hsame⟩, htrans hab hbc⟩

/-- Geometries of a missing kind and of an empty kind cannot be compared if their coordinates are not
nested equally deep. -/
theorem before_of_missing_kind :
    let depth (kind : Option String) : Nat := if kind.isSome then 2 else 1
    let unit := UnitOfMeasure.missing
    let a : NamedValue := ⟨none, some (.geometry (some ⟨.null, .tuple [.int 1], .null⟩) unit)⟩
    let b : NamedValue :=
      ⟨none, some (.geometry (some ⟨.text "", .tuple [.tuple [.int 1]], .null⟩) unit)⟩
    a.IsRegular depth ∧ b.IsRegular depth ∧
      (Parameter.named a).before (.named b) = .error .unorderable := by
  intro depth unit a b
  have hunit : unit.IsText := ⟨none, rfl⟩
  have hnumber : ∀ x ∈ [Datum.int 1], x.IsNested 0 := by
    intro x hx
    rw [List.mem_singleton.1 hx]
    exact ⟨_, rfl⟩
  refine ⟨?_, ?_, ?_⟩
  · rintro _ ⟨⟩
    refine ⟨?_, hunit⟩
    rintro _ ⟨⟩
    exact ⟨⟨none, rfl, _, rfl, hnumber⟩, .inl rfl⟩
  · rintro _ ⟨⟩
    refine ⟨?_, hunit⟩
    rintro _ ⟨⟩
    refine ⟨⟨some "", rfl, _, rfl, ?_⟩, .inl rfl⟩
    intro x hx
    rw [List.mem_singleton.1 hx]
    exact ⟨_, rfl, hnumber⟩
  · rw [Parameter.before, key_eq rfl, key_eq rfl, ok_bind, ok_bind]
    refine congrArg (ordered ·) (?_ : Datum.before? _ _ = none)
    decide +kernel

end NamedValue

namespace Parameter

/-- The comparisons of some parameters are those of a linear order. -/
structure Ranked {β : Type} [LinearOrder β] (P : Parameter → Prop) (rank : Parameter → β) :
    Prop where
  before : ∀ {p q}, P p → P q → p.before q = .ok (decide (rank p < rank q))
  same : ∀ {p q}, P p → P q → p.same q = .ok (decide (rank p = rank q))

theorem Ranked.same_iff {β : Type} [LinearOrder β] {P : Parameter → Prop} {rank : Parameter → β}
    (hranked : Ranked P rank) {p q : Parameter} (hp : P p) (hq : P q) :
    p.same q = .ok true ↔ rank p = rank q := by
  rw [hranked.same hp hq, Except.ok.injEq, decide_eq_true_iff]

def IsRegular (depth : Option String → Nat) : Parameter → Prop
  | .named n => n.IsRegular depth
  | .other _ => False

/-- What a parameter is ranked by; one that is no named value has no rank of its own. -/
def code : Parameter → List Token
  | .named n => n.code
  | .other _ => []

theorem IsRegular.exists_named {depth : Option String → Nat} {p : Parameter}
    (h : p.IsRegular depth) : ∃ n, p = .named n ∧ n.IsRegular depth := by
  cases p with
  | named n => exact ⟨n, rfl, h⟩
  | other d => exact h.elim

theorem ranked_regular {depth : Option String → Nat} (hdepth : depth none = depth (some "")) :
    Ranked (IsRegular depth) code where
  before := by
    intro p q hp hq
    obtain ⟨a, rfl, ha⟩ := hp.exists_named
    obtain ⟨b, rfl, hb⟩ := hq.exists_named
    exact (ha.before_eq hdepth hb).trans (congrArg Except.ok (decide_eq_decide.2 .rfl))
  same := by
    intro p q hp hq
    obtain ⟨a, rfl, ha⟩ := hp.exists_named
    obtain ⟨b, rfl, hb⟩ := hq.exists_named
    exact (ha.same_eq hdepth hb).trans (congrArg Except.ok (decide_eq_decide.2 .rfl))

end Parameter

end SensorSeries
