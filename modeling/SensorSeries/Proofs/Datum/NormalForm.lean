import SensorSeries.Datum.Basic

/-!
# Normal forms of data

The normal form of a datum is its own normal form, and so are coordinates that were made comparable
(`canon_canon`, `canon_canonCoordinates`): a key that is made of normal forms is compared as it stands.
Equality of data is transitive (`beqCanon_trans`), though a datum that holds a NaN is not even equal to
itself. Data that are one in every respect are one (`eq_of_identical`).
-/

namespace SensorSeries.Datum

/-! ## Fixed points -/

/-- What is empty has an empty normal form. -/
theorem truthy_canon (d : Datum) : d.canon.truthy = d.truthy := by
  cases d with
  | list items => cases items <;> rfl
  | tuple items => cases items <;> rfl
  | record fields => rcases fields with _ | ⟨⟨key, d⟩, rest⟩ <;> rfl
  | _ => rfl

/-- A datum whose forms stay as they are when they are formed again. -/
structure IsFixed (d : Datum) : Prop where
  canon : d.canon.canon = d.canon
  coordinates : d.canonCoordinates.canon = d.canonCoordinates
  again : d.canonCoordinates.canonCoordinates = d.canonCoordinates

/-- A list of data whose forms stay as they are. -/
structure AreFixed (ds : List Datum) : Prop where
  canon : canonAll (canonAll ds) = canonAll ds
  coordinates : canonAll (canonCoordinatesAll ds) = canonCoordinatesAll ds
  again : canonCoordinatesAll (canonCoordinatesAll ds) = canonCoordinatesAll ds

/-- An empty kind is written as an empty text, and the form of any other kind is not empty. -/
theorem IsFixed.kind {d : Datum} (h : d.IsFixed) :
    (if (if d.truthy then d.canon else .text "").truthy then
      (if d.truthy then d.canon else .text "").canon else .text "") =
      if d.truthy then d.canon else .text "" := by
  cases hd : d.truthy with
  | true => simp [truthy_canon, hd, h.canon]
  | false => rfl

mutual

theorem isFixed : (d : Datum) → d.IsFixed
  | .list items => by
    obtain ⟨hcanon, hcoordinates, hagain⟩ := areFixed items
    constructor
    · rw [canon, canon, hcanon]
    · rw [canonCoordinates, canon, hcoordinates]
    · rw [canonCoordinates, canonCoordinates, hagain]
  | .tuple items => by
    obtain ⟨hcanon, hcoordinates, hagain⟩ := areFixed items
    constructor
    · rw [canon, canon, hcanon]
    · rw [canonCoordinates, canon, hcoordinates]
    · rw [canonCoordinates, canonCoordinates, hagain]
  | .record fields => by
    have hfields := canonFields_canonFields fields
    constructor
    · rw [canon, canon, hfields]
    · rw [canonCoordinates, canon, hfields]
    · rw [canonCoordinates, canonCoordinates, hfields]
  | .geometry kind coordinates srid => by
    have hkind := (isFixed kind).kind
    have hcoordinates := (isFixed coordinates).again
    have hsrid := (isFixed srid).canon
    constructor
    · rw [canon, canon, hkind, hcoordinates, hsrid]
    · rw [canonCoordinates, canon, hkind, hcoordinates, hsrid]
    · rw [canonCoordinates, canonCoordinates, hkind, hcoordinates, hsrid]
  | .null => ⟨rfl, rfl, rfl⟩
  | .bool _ => ⟨rfl, rfl, rfl⟩
  | .int _ => ⟨rfl, rfl, rfl⟩
  | .num _ => ⟨rfl, rfl, rfl⟩
  | .text _ => ⟨rfl, rfl, rfl⟩
  | .time _ => ⟨rfl, rfl, rfl⟩

theorem areFixed : (ds : List Datum) → AreFixed ds
  | [] => ⟨rfl, rfl, rfl⟩
  | d :: ds => by
    obtain ⟨hcanon, hcoordinates, hagain⟩ := isFixed d
    obtain ⟨hcanons, hcoordinatess, hagains⟩ := areFixed ds
    constructor
    · rw [canonAll, canonAll, hcanon, hcanons]
    · rw [canonCoordinatesAll, canonAll, hcoordinates, hcoordinatess]
    · rw [canonCoordinatesAll, canonCoordinatesAll, hagain, hagains]

theorem canonFields_canonFields : (fields : List (String × Datum)) →
    canonFields (canonFields fields) = canonFields fields
  | [] => rfl
  | (key, d) :: fields => by
    rw [canonFields, canonFields, (isFixed d).canon, canonFields_canonFields fields]

end

@[simp] theorem canon_canon (d : Datum) : d.canon.canon = d.canon := (isFixed d).canon

@[simp] theorem canon_canonCoordinates (d : Datum) :
    d.canonCoordinates.canon = d.canonCoordinates :=
  (isFixed d).coordinates

/-! ## Transitivity -/

theorem sameNumber_iff {a b : Datum} :
    sameNumber a b = true ↔ ∃ p, a.number? = some (some p) ∧ b.number? = some (some p) := by
  unfold sameNumber
  split
  · next p q hp hq =>
    rw [hp, hq, beq_iff_eq]
    constructor
    · rintro rfl
      exact ⟨p, rfl, rfl⟩
    · rintro ⟨r, hr, hr'⟩
      cases hr
      cases hr'
      rfl
  · next h =>
    refine iff_of_false Bool.false_ne_true ?_
    rintro ⟨p, hp, hq⟩
    exact h p p hp hq

theorem sameNumber_trans {a b c : Datum} (hab : sameNumber a b = true)
    (hbc : sameNumber b c = true) : sameNumber a c = true := by
  obtain ⟨p, ha, hb⟩ := sameNumber_iff.1 hab
  obtain ⟨q, hb', hc⟩ := sameNumber_iff.1 hbc
  cases hb.symm.trans hb'
  exact sameNumber_iff.2 ⟨p, ha, hc⟩

/-- What is equal to a number is one. -/
theorem sameNumber_of_beqCanon {a b c : Datum} (hab : sameNumber a b = true)
    (hbc : beqCanon b c = true) : sameNumber b c = true := by
  obtain ⟨p, -, hb⟩ := sameNumber_iff.1 hab
  cases b with
  | bool b => exact hbc
  | int n => exact hbc
  | num x => exact hbc
  | _ => cases hb

theorem mem_of_field? {fields : List (String × Datum)} {key : String} {d : Datum}
    (h : field? fields key = some d) : (key, d) ∈ fields := by
  obtain ⟨⟨k, e⟩, hfind, rfl⟩ := Option.map_eq_some_iff.1 h
  have hkey := List.find?_some hfind
  rw [beq_iff_eq] at hkey
  subst hkey
  exact List.mem_of_find?_eq_some hfind

/-- Each field of the first record has its counterpart in the second. -/
theorem beqFields_iff {fields others : List (String × Datum)} :
    beqFields fields others = true ↔
      ∀ key d, (key, d) ∈ fields → ∃ e, field? others key = some e ∧ beqCanon d e = true := by
  induction fields with
  | nil => simp [beqFields]
  | cons f rest ih =>
    obtain ⟨key, d⟩ := f
    rw [beqFields, Bool.and_eq_true, ih]
    cases hfield : field? others key with
    | none =>
      refine iff_of_false (fun h => Bool.false_ne_true h.1) fun h => ?_
      obtain ⟨e, he, -⟩ := h key d (List.mem_cons_self ..)
      cases hfield.symm.trans he
    | some e =>
      constructor
      · rintro ⟨hd, hrest⟩ k c hc
        rcases List.mem_cons.1 hc with heq | hc
        · cases heq
          exact ⟨e, hfield, hd⟩
        · exact hrest k c hc
      · intro h
        obtain ⟨e', he', hd⟩ := h key d (List.mem_cons_self ..)
        cases hfield.symm.trans he'
        exact ⟨hd, fun k c hc => h k c (List.mem_cons_of_mem _ hc)⟩

mutual

/-- Two data that are both equal to a third one are equal. -/
theorem beqCanon_trans : (a : Datum) → {b c : Datum} → beqCanon a b = true → beqCanon b c = true →
    beqCanon a c = true
  | .null, .null, .null, _, _ => rfl
  | .text s, .text t, .text u, hab, hbc => by
    rw [beqCanon, beq_iff_eq] at hab hbc ⊢
    exact hab.trans hbc
  | .time s, .time t, .time u, hab, hbc => Timestamp.same_trans hab hbc
  | .list xs, .list ys, .list zs, hab, hbc => beqAll_trans xs hab hbc
  | .tuple xs, .tuple ys, .tuple zs, hab, hbc => beqAll_trans xs hab hbc
  | .record fields, .record others, .record thirds, hab, hbc => by
    rw [beqCanon, Bool.and_eq_true, beq_iff_eq] at hab hbc ⊢
    exact ⟨hab.1.trans hbc.1, beqFields_trans fields hab.2 hbc.2⟩
  | .geometry k c s, .geometry k' c' s', .geometry k'' c'' s'', hab, hbc => by
    rw [beqCanon, Bool.and_eq_true, Bool.and_eq_true] at hab hbc ⊢
    exact ⟨⟨beqCanon_trans k hab.1.1 hbc.1.1, beqCanon_trans c hab.1.2 hbc.1.2⟩,
      beqCanon_trans s hab.2 hbc.2⟩
  | .bool x, _, _, hab, hbc => sameNumber_trans hab (sameNumber_of_beqCanon hab hbc)
  | .int x, _, _, hab, hbc => sameNumber_trans hab (sameNumber_of_beqCanon hab hbc)
  | .num x, _, _, hab, hbc => sameNumber_trans hab (sameNumber_of_beqCanon hab hbc)

theorem beqAll_trans : (xs : List Datum) → {ys zs : List Datum} → beqAll xs ys = true →
    beqAll ys zs = true → beqAll xs zs = true
  | [], [], [], _, _ => rfl
  | x :: xs, y :: ys, z :: zs, hxy, hyz => by
    rw [beqAll, Bool.and_eq_true] at hxy hyz ⊢
    exact ⟨beqCanon_trans x hxy.1 hyz.1, beqAll_trans xs hxy.2 hyz.2⟩

theorem beqFields_trans : (fields : List (String × Datum)) → {others thirds : List (String × Datum)} →
    beqFields fields others = true → beqFields others thirds = true →
    beqFields fields thirds = true
  | [], _, _, _, _ => rfl
  | (key, d) :: fields, others, thirds, hab, hbc => by
    obtain ⟨e, he, hde⟩ := beqFields_iff.1 hab key d (List.mem_cons_self ..)
    obtain ⟨f, hf, hef⟩ := beqFields_iff.1 hbc key e (mem_of_field? he)
    rw [beqFields, Bool.and_eq_true] at hab
    rw [beqFields, hf, Bool.and_eq_true]
    exact ⟨beqCanon_trans d hde hef, beqFields_trans fields hab.2 hbc⟩

end

/-! ## Identity -/

mutual

theorem eq_of_identical : (a : Datum) → {b : Datum} → identical a b = true → a = b
  | .null, .null, _ => rfl
  | .bool x, .bool y, h => by
    rw [identical, beq_iff_eq] at h
    rw [h]
  | .int x, .int y, h => by
    rw [identical, beq_iff_eq] at h
    rw [h]
  | .num x, .num y, h => by
    rw [identical, decide_eq_true_eq] at h
    rw [h]
  | .text x, .text y, h => by
    rw [identical, beq_iff_eq] at h
    rw [h]
  | .time x, .time y, h => by
    rw [identical, decide_eq_true_eq] at h
    rw [h]
  | .list xs, .list ys, h => congrArg Datum.list (eq_of_identicalAll xs h)
  | .tuple xs, .tuple ys, h => congrArg Datum.tuple (eq_of_identicalAll xs h)
  | .record xs, .record ys, h => congrArg Datum.record (eq_of_identicalFields xs h)
  | .geometry k c s, .geometry k' c' s', h => by
    rw [identical, Bool.and_eq_true, Bool.and_eq_true] at h
    rw [eq_of_identical k h.1.1, eq_of_identical c h.1.2, eq_of_identical s h.2]

theorem eq_of_identicalAll : (xs : List Datum) → {ys : List Datum} → identicalAll xs ys = true →
    xs = ys
  | [], [], _ => rfl
  | x :: xs, y :: ys, h => by
    rw [identicalAll, Bool.and_eq_true] at h
    rw [eq_of_identical x h.1, eq_of_identicalAll xs h.2]

theorem eq_of_identicalFields : (xs : List (String × Datum)) → {ys : List (String × Datum)} →
    identicalFields xs ys = true → xs = ys
  | [], [], _ => rfl
  | (k, x) :: xs, (l, y) :: ys, h => by
    rw [identicalFields, Bool.and_eq_true, Bool.and_eq_true, beq_iff_eq] at h
    rw [h.1.1, eq_of_identical x h.1.2, eq_of_identicalFields xs h.2]

end

end SensorSeries.Datum
