import SensorSeries.Proofs.Profile.Order

/-!
# Comparing two levels

A start tells nothing, a number, or that it is none: a NaN. Of two levels the comparison looks at
these readings alone (`compare_readings`). It is transitive whatever they are, and levels that are
the same compare as equal; but a NaN is put after every number and every NaN, itself included. So
two levels are ordered one way or the other unless a NaN meets a number or a NaN
(`preordered_unless_nan`).
-/

namespace SensorSeries

namespace Datum

variable {a b : Datum} {p q : Option Position}

/-- A NaN equals no number, and is on neither side of any. -/
theorem nan_compares (ha : a.number? = some p) (hb : b.number? = some q) (h : p = none ∨ q = none) :
    (a == b) = false ∧ a.before? b = some false := by
  have hcanon : a.canon = a ∧ b.canon = b := ⟨(canon_of_number ha).1, (canon_of_number hb).1⟩
  have hnone : sameNumber a b = false ∧ beforeNumber? a b = some false := by
    rw [sameNumber, beforeNumber?, ha, hb]
    rcases h with rfl | rfl
    · exact ⟨rfl, rfl⟩
    · cases p <;> exact ⟨rfl, rfl⟩
  constructor
  · change beqCanon a.canon b.canon = false
    rw [hcanon.1, hcanon.2, beqCanon_of_number_left ha, hnone.1]
  · rw [before?, hcanon.1, hcanon.2, ← hnone.2]
    cases a with
    | bool _ => rfl
    | int _ => rfl
    | num _ => rfl
    | _ => cases ha

/-- Equal data are the same number, or both no number at all. -/
theorem number?_of_beq (h : (a == b) = true) : b.number? = a.number? ∧ a.number? ≠ some none := by
  have hbeq : beqCanon a.canon b.canon = true := h
  cases ha : a.number? with
  | none =>
    cases hb : b.number? with
    | none => exact ⟨rfl, (Option.some_ne_none none).symm⟩
    | some q =>
      rw [beqCanon_of_number_right ((number?_canon b).trans hb), sameNumber, number?_canon, ha]
        at hbeq
      cases hbeq
  | some p =>
    rw [beqCanon_of_number_left ((number?_canon a).trans ha), sameNumber, number?_canon,
      number?_canon, ha] at hbeq
    split at hbeq
    · next p' q hp hq =>
      cases hp
      rw [hq, eq_of_beq hbeq]
      exact ⟨rfl, fun h => Option.some_ne_none q (Option.some.inj h)⟩
    · cases hbeq

end Datum

/-- What the relations of two things answer if all of them follow one comparison. -/
structure Relations.Follows (r : Relations) (o : Ordering) : Prop where
  before : r.before = .ok (o == .lt)
  after : r.after = .ok (o == .gt)
  notAfter : r.notAfter = .ok (o == .lt || o == .eq)
  notBefore : r.notBefore = .ok (o == .gt || o == .eq)

theorem ProfileItem.relations_follow {a b : ProfileLevel} {o : Ordering}
    (h : a.compare b = .ok o) : (relations (.level a) (.level b)).Follows o := by
  constructor
  all_goals
    rw [relations]
    dsimp only
    rw [h]
    cases o <;> rfl

namespace ProfileLevel

/-! ## Readings -/

/-- Bounds as they may be given: missing, or a quantity that holds nothing, an integer or a double. A
double may be a NaN. -/
inductive IsQuantified : Option Value → Prop
  | missing : IsQuantified none
  | empty {c : Component} (hkind : c.kind = .quantity) (hvalue : c.value = .null) :
    IsQuantified (some (.component c))
  | integer {c : Component} {n : Int} (hkind : c.kind = .quantity) (hvalue : c.value = .int n) :
    IsQuantified (some (.component c))
  | double {c : Component} {x : Binary64} (hkind : c.kind = .quantity) (hvalue : c.value = .num x) :
    IsQuantified (some (.component c))

/-- What a bound tells: nothing, that it is no number (the inner `none`), or a number. -/
def reading (b : Option Value) : Option (Option Position) := (bound b).toOption.bind Datum.number?

theorem IsQuantified.cases {b : Option Value} (h : IsQuantified b) :
    (bound b = .ok .null ∧ reading b = none) ∨
      ∃ d p, bound b = .ok d ∧ d.number? = some p ∧ reading b = some p := by
  have hnumber {c : Component} {p : Option Position} (hvalue : c.value.number? = some p) :
      ∃ d p, bound (some (.component c)) = .ok d ∧ d.number? = some p ∧
        reading (some (.component c)) = some p :=
    ⟨c.value, p, rfl, hvalue, hvalue⟩
  cases h with
  | missing => exact .inl ⟨rfl, rfl⟩
  | @empty c hkind hvalue =>
    have hbound : bound (some (.component c)) = .ok .null := congrArg Except.ok hvalue
    exact .inl ⟨hbound, by rw [reading, hbound]; rfl⟩
  | @integer c n hkind hvalue => exact .inr (hnumber (congrArg Datum.number? hvalue))
  | @double c x hkind hvalue => exact .inr (hnumber (congrArg Datum.number? hvalue))

theorem IsQuantified.exists_bound {b : Option Value} (h : IsQuantified b) :
    ∃ d, bound b = .ok d := by
  rcases h.cases with ⟨hbound, -⟩ | ⟨d, -, hbound, -⟩
  · exact ⟨_, hbound⟩
  · exact ⟨d, hbound⟩

theorem reading_eq {b : Option Value} {d : Datum} (h : bound b = .ok d) : reading b = d.number? := by
  rw [reading, h]
  rfl

/-- How two readings are put in order. -/
def compareReadings : Option (Option Position) → Option (Option Position) → Ordering
  | none, none => .eq
  | none, some _ => .lt
  | some _, none => .gt
  | some (some p), some (some q) => cmp p q
  | some none, some _ => .gt
  | some (some _), some none => .gt

theorem compareStarts_of_readings {x y : Datum} {p q : Option Position} (hx : x.number? = some p)
    (hy : y.number? = some q) : compareStarts x y = .ok (compareReadings (some p) (some q)) := by
  have hnan (h : p = none ∨ q = none) : compareStarts x y = .ok .gt := by
    obtain ⟨hsame, hbefore⟩ := Datum.nan_compares hx hy h
    unfold compareStarts
    split
    · cases hx
    · cases hx
    · cases hy
    · rw [hsame, hbefore]
      rfl
  rcases p with _ | p
  · rw [hnan (.inl rfl)]
    cases q <;> rfl
  · rcases q with _ | q
    · exact hnan (.inr rfl)
    · exact compareStarts_of_numbers hx hy

/-- **Levels are compared by the readings of their starts.** -/
theorem compare_readings {a b : ProfileLevel} (ha : IsQuantified a.start)
    (hb : IsQuantified b.start) :
    a.compare b = .ok (compareReadings (reading a.start) (reading b.start)) := by
  rw [compare]
  rcases ha.cases with ⟨hx, hp⟩ | ⟨x, p, hx, hxp, hp⟩
  · rcases hb.cases with ⟨hy, hq⟩ | ⟨y, q, hy, hyq, hq⟩
    · rw [hx, hy, hp, hq]
      rfl
    · rw [hx, hy, hp, hq]
      exact compareStarts_null_left hyq
  · rcases hb.cases with ⟨hy, hq⟩ | ⟨y, q, hy, hyq, hq⟩
    · rw [hx, hy, hp, hq]
      exact compareStarts_null_right hxp
    · rw [hx, hy, hp, hq]
      exact compareStarts_of_readings hxp hyq

/-! ## The order of readings -/

section Readings

variable {x y z : Option (Option Position)}

/-- Whether a NaN meets a number or a NaN. -/
def MeetsNaN (x y : Option (Option Position)) : Prop :=
  x ≠ none ∧ y ≠ none ∧ (x = some none ∨ y = some none)

theorem compareReadings_of_meetsNaN (h : MeetsNaN x y) : compareReadings x y = .gt := by
  obtain ⟨hx, hy, h⟩ := h
  rcases x with _ | _ | p
  · exact absurd rfl hx
  · rcases y with _ | _ | q <;> rfl
  · rcases h with h | rfl
    · cases h
    · rfl

theorem meetsNaN_comm : MeetsNaN x y ↔ MeetsNaN y x := by
  unfold MeetsNaN
  tauto

theorem compareReadings_swap (h : ¬ MeetsNaN x y) :
    compareReadings y x = (compareReadings x y).swap := by
  rcases x with _ | _ | p
  · cases y <;> rfl
  · cases y with
    | none => rfl
    | some q => exact absurd ⟨nofun, nofun, .inl rfl⟩ h
  · rcases y with _ | _ | q
    · rfl
    · exact absurd ⟨nofun, nofun, .inr rfl⟩ h
    · exact (cmp_swap p q).symm

/-- A NaN is not kept behind anything, and only a missing number is kept before it. -/
theorem compareReadings_trans (hxy : compareReadings x y ≠ .gt) (hyz : compareReadings y z ≠ .gt) :
    compareReadings x z ≠ .gt := by
  rcases x with _ | _ | p
  · cases z <;> nofun
  · rcases y with _ | _ | q <;> exact absurd rfl hxy
  · rcases y with _ | _ | q
    · exact absurd rfl hxy
    · exact absurd rfl hxy
    · rcases z with _ | _ | r
      · exact absurd rfl hyz
      · exact absurd rfl hyz
      · rw [compareReadings, Ne, cmp_eq_gt_iff, not_lt] at hxy hyz ⊢
        exact hxy.trans hyz

theorem compareReadings_self_iff : compareReadings x x = .eq ↔ x ≠ some none := by
  rcases x with _ | _ | p
  · exact iff_of_true rfl nofun
  · exact iff_of_false nofun fun h => h rfl
  · exact iff_of_true (cmp_self_eq_eq p) nofun

end Readings

/-! ## Equality -/

theorem IsQuantified.none_or_component {b : Option Value} (h : IsQuantified b) :
    b = none ∨ ∃ c, b = some (.component c) := by
  cases h with
  | missing => exact .inl rfl
  | _ => exact .inr ⟨_, rfl⟩

/-- Bounds that are the same, or identical, hold equal data, or one and the same. -/
theorem data_of_sameOption {s t : Option Value} {x y : Datum} (hs : IsQuantified s)
    (ht : IsQuantified t) (hx : bound s = .ok x) (hy : bound t = .ok y) :
    (sameOption Value.same s t = true → (x == y) = true) ∧
      (sameOption Value.sameOrIdentical s t = true → x = y ∨ (x == y) = true) := by
  rcases hs.none_or_component with rfl | ⟨c, rfl⟩
  · rcases ht.none_or_component with rfl | ⟨d, rfl⟩
    · cases hx
      cases hy
      exact ⟨fun _ => rfl, fun _ => .inl rfl⟩
    · exact ⟨nofun, nofun⟩
  · rcases ht.none_or_component with rfl | ⟨d, rfl⟩
    · exact ⟨nofun, nofun⟩
    · cases hx
      cases hy
      have hsame (h : c.same d = true) : (c.value == d.value) = true := by
        simp only [Component.same, Bool.and_eq_true] at h
        exact h.1.1.1.2
      refine ⟨hsame, fun h => ?_⟩
      rcases Bool.or_eq_true_iff.1 h with hidentical | h
      · simp only [Value.identical, Bool.and_eq_true] at hidentical
        exact .inl (Datum.eq_of_identical _ hidentical.1.1.1.2)
      · exact .inr (hsame h)

/-- Levels that are the same have one reading, and it is no NaN. -/
theorem reading_of_same {a b : ProfileLevel} (ha : IsQuantified a.start) (hb : IsQuantified b.start)
    (h : a.same b = true) : reading b.start = reading a.start ∧ reading a.start ≠ some none := by
  simp only [same, agree, Bool.and_eq_true] at h
  obtain ⟨x, hx⟩ := ha.exists_bound
  obtain ⟨y, hy⟩ := hb.exists_bound
  rw [reading_eq hx, reading_eq hy]
  exact Datum.number?_of_beq ((data_of_sameOption ha hb hx hy).1 h.1.1.1)

/-- Levels that may also share parts have one reading, which may be a NaN. -/
theorem reading_of_sameOrIdentical {a b : ProfileLevel} (ha : IsQuantified a.start)
    (hb : IsQuantified b.start) (h : a.sameOrIdentical b = true) :
    reading b.start = reading a.start := by
  simp only [sameOrIdentical, agree, Bool.and_eq_true] at h
  obtain ⟨x, hx⟩ := ha.exists_bound
  obtain ⟨y, hy⟩ := hb.exists_bound
  rw [reading_eq hx, reading_eq hy]
  rcases (data_of_sameOption ha hb hx hy).2 h.1.1.1 with rfl | heq
  · rfl
  · exact (Datum.number?_of_beq heq).1

/-! ## Preorder -/

/-- **Levels are preordered by their starts, unless a NaN meets a number or a NaN.** Any two can be
compared, all relations follow the comparison, it is transitive, and levels that are the same compare
as equal; if parts are taken for equal to themselves, they do so unless they start at a NaN. The two
ways round the comparison gives opposite answers, and so puts one level before the other or takes both
for equal, exactly if no NaN meets a number or a NaN; otherwise each level comes after the other. So a
level that starts at a NaN does not even compare as equal to itself. -/
theorem preordered_unless_nan {a b c : ProfileLevel} (ha : IsQuantified a.start)
    (hb : IsQuantified b.start) (hc : IsQuantified c.start) :
    ∃ ab ba bc ac : Ordering, a.compare b = .ok ab ∧ b.compare a = .ok ba ∧
      b.compare c = .ok bc ∧ a.compare c = .ok ac ∧
      (ProfileItem.relations (.level a) (.level b)).Follows ab ∧
      (ab ≠ .gt → bc ≠ .gt → ac ≠ .gt) ∧ (a.same b = true → ab = .eq) ∧
      (a.sameOrIdentical b = true → (ab = .eq ↔ reading a.start ≠ some none)) ∧
      (ba = ab.swap ↔ ¬ MeetsNaN (reading a.start) (reading b.start)) ∧
      (MeetsNaN (reading a.start) (reading b.start) → ab = .gt ∧ ba = .gt) ∧
      (a.compare a = .ok .eq ↔ reading a.start ≠ some none) := by
  have hab := compare_readings ha hb
  refine ⟨_, _, _, _, hab, compare_readings hb ha, compare_readings hb hc, compare_readings ha hc,
    ProfileItem.relations_follow hab, compareReadings_trans, ?_, ?_, ⟨?_, compareReadings_swap⟩,
    ?_, ?_⟩
  · intro hsame
    obtain ⟨heq, hnan⟩ := reading_of_same ha hb hsame
    rw [heq]
    exact compareReadings_self_iff.2 hnan
  · intro hsame
    rw [reading_of_sameOrIdentical ha hb hsame]
    exact compareReadings_self_iff
  · intro hswap hmeets
    rw [compareReadings_of_meetsNaN hmeets, compareReadings_of_meetsNaN (meetsNaN_comm.1 hmeets)]
      at hswap
    cases hswap
  · intro hmeets
    exact ⟨compareReadings_of_meetsNaN hmeets, compareReadings_of_meetsNaN (meetsNaN_comm.1 hmeets)⟩
  · rw [compare_readings ha ha, Except.ok.injEq]
    exact compareReadings_self_iff

/-- A level without start number, one at a number and one at a NaN: the first comes before the
second, and of the others each comes after the other. -/
theorem preordered_unless_nan_three :
    let level (d : Datum) : ProfileLevel := { start := some (.quantity d .missing) }
    let a := level .null
    let b := level (.int 1)
    let c := level (.num .nan)
    IsQuantified a.start ∧ IsQuantified b.start ∧ IsQuantified c.start ∧
      a.compare b = .ok .lt ∧ b.compare a = .ok .gt ∧ a.compare a = .ok .eq ∧
      b.compare c = .ok .gt ∧ c.compare b = .ok .gt := by
  intro level a b c
  have ha : IsQuantified a.start := .empty rfl rfl
  have hb : IsQuantified b.start := .integer rfl rfl
  have hc : IsQuantified c.start := .double rfl rfl
  have hreadings : reading a.start = none ∧ reading b.start = some (some (.ofInt 1)) ∧
      reading c.start = some none :=
    ⟨rfl, rfl, rfl⟩
  have hbefore : a.compare b = .ok .lt := rfl
  obtain ⟨ab, ba, -, -, hab, hba, -, -, -, -, -, -, hswap, -, hself⟩ :=
    preordered_unless_nan ha hb hc
  obtain ⟨bc, cb, -, -, hbc, hcb, -, -, -, -, -, -, -, hnan, -⟩ := preordered_unless_nan hb hc ha
  rw [hreadings.1] at hswap hself
  rw [hreadings.2.1, hreadings.2.2] at hnan
  obtain ⟨rfl, rfl⟩ := hnan ⟨nofun, nofun, .inr rfl⟩
  cases hbefore.symm.trans hab
  obtain rfl := hswap.2 fun h => h.1 rfl
  exact ⟨ha, hb, hc, hab, hba, hself.2 nofun, hbc, hcb⟩

/-- A level that starts at a NaN comes after one at a number, which comes after it, and it comes
after itself, though it is equal to itself. -/
theorem nan_after_itself :
    let level (d : Datum) : ProfileLevel := { start := some (.quantity d .missing) }
    let a := level (.num .nan)
    let b := level (.int 1)
    IsQuantified a.start ∧ IsQuantified b.start ∧ a.sameOrIdentical a = true ∧
      a.compare a = .ok .gt ∧ a.compare b = .ok .gt ∧ b.compare a = .ok .gt := by
  intro level a b
  have ha : IsQuantified a.start := .double rfl rfl
  have hb : IsQuantified b.start := .integer rfl rfl
  refine ⟨ha, hb, rfl, ?_, ?_, ?_⟩
  · rw [compare_readings ha ha]
    rfl
  · rw [compare_readings ha hb]
    rfl
  · rw [compare_readings hb ha]
    rfl

end ProfileLevel

end SensorSeries
