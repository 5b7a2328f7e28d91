import SensorSeries.Proofs.Datum.Codes
import SensorSeries.Proofs.Datum.NormalForm
import SensorSeries.Value.Key

/-!
# Keys of values

The key of a value covers all that the equality of values looks at. Among `IsRegular` values, which
hold data of known kinds and geometries that are nested as deep as their kind demands, any two keys
are alike, so the order of their codes is the order of the values (`IsRegular.alike`); and two keys
are equal when the values are, except that all NaNs have one key (`IsRegular.beq_key_iff`).
-/

namespace SensorSeries

namespace Datum

/-! ## Normal forms -/

theorem canonAll_eq_map (ds : List Datum) : canonAll ds = ds.map canon := by
  induction ds with
  | nil => rfl
  | cons d ds ih => rw [canonAll, ih, List.map_cons]

theorem canonCoordinatesAll_eq_map (ds : List Datum) :
    canonCoordinatesAll ds = ds.map canonCoordinates := by
  induction ds with
  | nil => rfl
  | cons d ds ih => rw [canonCoordinatesAll, ih, List.map_cons]

theorem canon_of_number {d : Datum} {p : Option Position} (h : d.number? = some p) :
    d.canon = d ∧ d.canonCoordinates = d := by
  cases d with
  | bool b => exact ⟨rfl, rfl⟩
  | int n => exact ⟨rfl, rfl⟩
  | num x => exact ⟨rfl, rfl⟩
  | _ => cases h

theorem number?_canon (d : Datum) : d.canon.number? = d.number? := by
  cases d <;> rfl

/-! ## Equality of normal forms -/

theorem beqCanon_int (m n : Int) : beqCanon (.int m) (.int n) = decide (m = n) := by
  rw [beqCanon, Bool.eq_iff_iff]
  simp [sameNumber, number?, Position.ofInt_inj]

theorem beqCanon_text (s t : String) : beqCanon (.text s) (.text t) = (s == t) := rfl

theorem beqCanon_tuple (xs ys : List Datum) : beqCanon (.tuple xs) (.tuple ys) = beqAll xs ys := rfl

theorem beqCanon_tagged (i j : Int) (xs ys : List Datum) :
    beqCanon (.tuple (.int i :: xs)) (.tuple (.int j :: ys)) = (decide (i = j) && beqAll xs ys) := by
  rw [beqCanon_tuple, beqAll, beqCanon_int]

theorem beqCanon_of_number_left {a : Datum} {p : Option Position} (h : a.number? = some p)
    (b : Datum) : beqCanon a b = sameNumber a b := by
  cases a with
  | bool b => rfl
  | int n => rfl
  | num x => rfl
  | _ => cases h

theorem beqCanon_of_number_right {b : Datum} {q : Option Position} (h : b.number? = some q)
    (a : Datum) : beqCanon a b = sameNumber a b := by
  cases b with
  | bool b => cases a <;> rfl
  | int n => cases a <;> rfl
  | num x => cases a <;> rfl
  | _ => cases h

/-! ## Coordinates -/

/-- Lists or tuples of numbers that are all nested equally deep. A NaN is no number here. -/
def IsNested : Nat → Datum → Prop
  | 0, d => ∃ p, d.number? = some (some p)
  | n + 1, d => ∃ items, d.items? = some items ∧ ∀ x ∈ items, IsNested n x

theorem canonCoordinates_of_items {d : Datum} {items : List Datum} (h : d.items? = some items) :
    d.canonCoordinates = .tuple (items.map canonCoordinates) := by
  rw [← canonCoordinatesAll_eq_map]
  cases d with
  | list ds =>
    cases h
    rfl
  | tuple ds =>
    cases h
    rfl
  | _ => cases h

theorem AlikeAll.of_forall {xs ys : List Datum} (h : ∀ x ∈ xs, ∀ y ∈ ys, Alike x y) :
    AlikeAll xs ys := by
  induction xs generalizing ys with
  | nil => exact .nilLeft ys
  | cons x xs ih =>
    cases ys with
    | nil => exact .nilRight _
    | cons y ys =>
      refine .cons (h x List.mem_cons_self y List.mem_cons_self) fun _ => ih ?_
      intro a ha b hb
      exact h a (List.mem_cons_of_mem _ ha) b (List.mem_cons_of_mem _ hb)

theorem IsNested.alike {n : Nat} {c d : Datum} (hc : IsNested n c) (hd : IsNested n d) :
    Alike c.canonCoordinates d.canonCoordinates := by
  induction n generalizing c d with
  | zero =>
    obtain ⟨p, hp⟩ := hc
    obtain ⟨q, hq⟩ := hd
    rw [(canon_of_number hp).2, (canon_of_number hq).2]
    exact .number hp hq
  | succ n ih =>
    obtain ⟨xs, hxs, hc⟩ := hc
    obtain ⟨ys, hys, hd⟩ := hd
    rw [canonCoordinates_of_items hxs, canonCoordinates_of_items hys]
    refine .tuple (.of_forall ?_)
    intro x' hx' y' hy'
    obtain ⟨x, hx, rfl⟩ := List.mem_map.1 hx'
    obtain ⟨y, hy, rfl⟩ := List.mem_map.1 hy'
    exact ih (hc x hx) (hd y hy)

/-- Tuples with different numbers in front are not looked at any further. -/
theorem Alike.tagged {i j : Int} {xs ys : List Datum} (h : i = j → AlikeAll xs ys) :
    Alike (.tuple (.int i :: xs)) (.tuple (.int j :: ys)) := by
  refine .tuple (.cons (.number rfl rfl) ?_)
  intro hcode
  refine h (Position.ofInt_inj.1 ?_)
  injection hcode with hnumber
  injection hnumber

/-! ## Texts that may be missing -/

def ofText? : Option String → Datum
  | none => .null
  | some s => .text s

end Datum

open Datum

theorem optionKey_canon (s : Option String) : (optionKey s).canon = optionKey s := by
  cases s <;> rfl

theorem optionKey_alike (s t : Option String) : Alike (optionKey s) (optionKey t) := by
  cases s with
  | none =>
    cases t with
    | none => exact .tagged fun _ => .nilLeft _
    | some t => exact .tagged fun _ => .nilLeft _
  | some s =>
    cases t with
    | none => exact .tagged fun _ => .nilRight _
    | some t => exact .tagged fun _ => .cons (.text s t) fun _ => .nilLeft _

theorem beqCanon_optionKey (s t : Option String) :
    beqCanon (optionKey s) (optionKey t) = (s == t) := by
  cases s <;> cases t <;> simp [optionKey, beqCanon_tagged, beqAll, beqCanon_text]

namespace UnitOfMeasure

/-- Whether the unit goes by a text, if it is not missing. -/
def IsText (u : UnitOfMeasure) : Prop := ∃ s, u.symbol = .ofText? s

theorem key_of_text {u : UnitOfMeasure} {s : Option String} (h : u.symbol = .ofText? s) :
    u.key = optionKey s := by
  unfold key isMissing
  rw [h]
  cases s <;> rfl

theorem isMissing_iff {u : UnitOfMeasure} : u.isMissing = true ↔ u.symbol = .null := by
  obtain ⟨symbol⟩ := u
  cases symbol <;> simp [isMissing]

theorem canon_key_missing {u : UnitOfMeasure} (h : u.isMissing = true) :
    u.key.canon = .tuple [.int 0] := by
  rw [key, h]
  rfl

theorem canon_key {u : UnitOfMeasure} (h : u.isMissing = false) :
    u.key.canon = .tuple [.int 1, u.symbol.canon] := by
  rw [key, h]
  rfl

/-- Nothing is a missing unit but a missing unit. -/
theorem beqCanon_null (u : UnitOfMeasure) :
    beqCanon (canon .null) u.symbol.canon = u.isMissing ∧
      beqCanon u.symbol.canon (canon .null) = u.isMissing := by
  obtain ⟨symbol⟩ := u
  cases symbol with
  | num x => cases x <;> exact ⟨rfl, rfl⟩
  | _ => exact ⟨rfl, rfl⟩

/-- Units with equal keys are equal. -/
theorem beqCanon_key (u v : UnitOfMeasure) : beqCanon u.key.canon v.key.canon = (u == v) := by
  change _ = beqCanon u.symbol.canon v.symbol.canon
  cases hu : u.isMissing with
  | true =>
    rw [canon_key_missing hu, isMissing_iff.1 hu, v.beqCanon_null.1]
    cases hv : v.isMissing with
    | true => simp [canon_key_missing hv, beqCanon_tagged, beqAll]
    | false => simp [canon_key hv, beqCanon_tagged]
  | false =>
    rw [canon_key hu]
    cases hv : v.isMissing with
    | true =>
      rw [isMissing_iff.1 hv, u.beqCanon_null.2, hu]
      simp [canon_key_missing hv, beqCanon_tagged]
    | false => simp [canon_key hv, beqCanon_tagged, beqAll]

end UnitOfMeasure

/-! ## Geometries -/

namespace Geometry

/-- A kind that is a text or missing, coordinates that are nested as deep as those of all geometries
of this kind, and a number for the reference system, if there is one. -/
structure IsRegular (depth : Option String → Nat) (g : Geometry) : Prop where
  exists_kind : ∃ kind, g.kind = .ofText? kind ∧ g.coordinates.IsNested (depth kind)
  srid : g.srid = .null ∨ ∃ p, g.srid.number? = some (some p)

variable {depth : Option String → Nat} {g h : Geometry}

/-- The kind as it stands in the key. -/
def kindKey (g : Geometry) : Datum := if g.kind.truthy then g.kind.canon else .text ""

theorem kindKey_eq {kind : Option String} (h : g.kind = .ofText? kind) :
    g.kindKey = .text (kind.getD "") := by
  rw [kindKey, h]
  cases kind with
  | none => rfl
  | some s =>
    by_cases hs : s = ""
    · rw [hs]
      rfl
    · rw [if_pos (by simpa [ofText?, truthy] using hs)]
      rfl

/-- The key is in normal form. -/
theorem canon_key (g : Geometry) : g.key.canon = g.key := by
  have hkind : (if g.kind.truthy then g.kind.canon else .text "").canon =
      if g.kind.truthy then g.kind.canon else .text "" := by
    cases g.kind.truthy with
    | true => exact canon_canon _
    | false => rfl
  have hsrid : (sridKey g.srid).canon = sridKey g.srid := by
    cases g.srid with
    | null => rfl
    | _ => exact congrArg (fun d => Datum.tuple [.int 1, d]) (canon_canon _)
  rw [key, canon]
  simp only [canonAll, hkind, hsrid, canon_canonCoordinates]

theorem sridKey_of_number {d : Datum} {p : Option Position} (h : d.number? = some p) :
    sridKey d = .tuple [.int 1, d] := by
  cases d with
  | bool b => rfl
  | int n => rfl
  | num x => rfl
  | _ => cases h

theorem IsRegular.alike_sridKey (hg : g.IsRegular depth) (hh : h.IsRegular depth) :
    Alike (sridKey g.srid) (sridKey h.srid) := by
  rcases hg.srid with hnone | ⟨p, hp⟩
  · rw [hnone]
    rcases hh.srid with hnone | ⟨q, hq⟩
    · rw [hnone]
      exact .tagged fun _ => .nilLeft _
    · rw [sridKey_of_number hq]
      exact .tagged fun _ => .nilLeft _
  · rw [sridKey_of_number hp]
    rcases hh.srid with hnone | ⟨q, hq⟩
    · rw [hnone]
      exact .tagged fun _ => .nilRight _
    · rw [sridKey_of_number hq]
      exact .tagged fun _ => .cons (.number hp hq) fun _ => .nilLeft _

/-- A missing kind counts as an empty one in the key, and has to in the depth. -/
theorem IsRegular.alike_key (hdepth : depth none = depth (some "")) (hg : g.IsRegular depth)
    (hh : h.IsRegular depth) : Alike g.key h.key := by
  obtain ⟨kind, hkind, hcoordinates⟩ := hg.exists_kind
  obtain ⟨kind', hkind', hcoordinates'⟩ := hh.exists_kind
  change Alike (.tuple [g.kindKey, g.coordinates.canonCoordinates, sridKey g.srid])
    (.tuple [h.kindKey, h.coordinates.canonCoordinates, sridKey h.srid])
  rw [kindKey_eq hkind, kindKey_eq hkind']
  refine .tuple (.cons (.text _ _) fun hcode => ?_)
  have hsame : kind.getD "" = kind'.getD "" := by
    injection hcode with htext
    injection htext
  have hfilled (kind : Option String) : depth kind = depth (some (kind.getD "")) := by
    cases kind with
    | none => exact hdepth
    | some s => rfl
  rw [hfilled, hsame, ← hfilled] at hcoordinates
  exact .cons (hcoordinates.alike hcoordinates') fun _ =>
    .cons (hg.alike_sridKey hh) fun _ => .nilLeft _

theorem IsRegular.beqCanon_sridKey (hg : g.IsRegular depth) (hh : h.IsRegular depth) :
    beqCanon (sridKey g.srid) (sridKey h.srid) = beqCanon g.srid.canon h.srid.canon := by
  rcases hg.srid with hnone | ⟨p, hp⟩
  · rw [hnone]
    rcases hh.srid with hnone | ⟨q, hq⟩
    · rw [hnone, sridKey, beqCanon_tagged]
      rfl
    · rw [sridKey_of_number hq, (canon_of_number hq).1, beqCanon_of_number_right hq, sridKey,
        beqCanon_tagged]
      rfl
  · rw [sridKey_of_number hp, (canon_of_number hp).1]
    rcases hh.srid with hnone | ⟨q, hq⟩
    · rw [hnone, beqCanon_of_number_left hp, sridKey, beqCanon_tagged, sameNumber, hp]
      rfl
    · rw [sridKey_of_number hq, (canon_of_number hq).1, beqCanon_tagged]
      simp [beqAll]

/-- Geometries with equal keys are equal data. -/
theorem IsRegular.beqCanon_key (hg : g.IsRegular depth) (hh : h.IsRegular depth) :
    beqCanon g.key h.key = (g.toDatum == h.toDatum) := by
  change (beqCanon g.kindKey h.kindKey &&
      (beqCanon g.coordinates.canonCoordinates h.coordinates.canonCoordinates &&
        (beqCanon (sridKey g.srid) (sridKey h.srid) && true))) =
    (beqCanon g.kindKey h.kindKey &&
      beqCanon g.coordinates.canonCoordinates h.coordinates.canonCoordinates &&
        beqCanon g.srid.canon h.srid.canon)
  rw [hg.beqCanon_sridKey hh, Bool.and_true, Bool.and_assoc]

end Geometry

/-! ## Contents -/

namespace Datum

/-- What a regular value may hold: nothing, any number, a text or a regular geometry; and what its
key consists of, the number of the kind and what follows it. -/
inductive Keyed (depth : Option String → Nat) : Datum → Nat → List Datum → Prop
  | null : Keyed depth .null 0 []
  | number {d : Datum} {p : Position} (h : d.number? = some (some p)) : Keyed depth d 1 [d]
  | text (s : String) : Keyed depth (.text s) 2 [.text s]
  | geometry {g : Geometry} (h : g.IsRegular depth) : Keyed depth g.toDatum 3 [g.key]
  | nan : Keyed depth (.num .nan) 4 []

def IsContent (depth : Option String → Nat) (d : Datum) : Prop := ∃ tag rest, Keyed depth d tag rest

variable {depth : Option String → Nat} {a b d : Datum} {i j : Nat} {xs ys : List Datum}

theorem key_of_number {p : Position} (h : d.number? = some (some p)) :
    d.key = .tuple [.int 1, d] := by
  cases d with
  | bool b => rfl
  | int n => rfl
  | num x =>
    cases x with
    | nan => cases h
    | infinite negative => rfl
    | finite negative units => rfl
  | _ => cases h

theorem isNaN_of_number {p : Position} (h : d.number? = some (some p)) : d.isNaN = false := by
  cases d with
  | num x =>
    cases x with
    | nan => cases h
    | infinite negative => rfl
    | finite negative units => rfl
  | _ => rfl

theorem Keyed.canon_key (h : Keyed depth d i xs) : d.key.canon = .tuple (.int i :: xs) := by
  cases h with
  | null => rfl
  | number h =>
    rw [key_of_number h, canon, canonAll_eq_map, List.map_cons, List.map_singleton,
      (canon_of_number h).1]
    rfl
  | text s => rfl
  | @geometry g h =>
    change Datum.tuple [.int 3, g.key.canon] = _
    rw [g.canon_key]
    rfl
  | nan => rfl

theorem IsContent.alike_key (hdepth : depth none = depth (some "")) (ha : IsContent depth a)
    (hb : IsContent depth b) : Alike a.key.canon b.key.canon := by
  obtain ⟨i, xs, ha⟩ := ha
  obtain ⟨j, ys, hb⟩ := hb
  rw [ha.canon_key, hb.canon_key]
  refine .tagged ?_
  intro hij
  obtain rfl := Int.ofNat.inj hij
  cases ha with
  | null => exact .nilLeft ys
  | number hp =>
    cases hb with
    | number hq => exact .cons (.number hp hq) fun _ => .nilLeft _
  | text s =>
    cases hb with
    | text t => exact .cons (.text s t) fun _ => .nilLeft _
  | geometry hg =>
    cases hb with
    | geometry hh => exact .cons (hg.alike_key hdepth hh) fun _ => .nilLeft _
  | nan => exact .nilLeft ys

/-- **Contents with equal keys are equal**, or both a NaN. -/
theorem IsContent.beqCanon_key (ha : IsContent depth a) (hb : IsContent depth b) :
    beqCanon a.key.canon b.key.canon = (a == b || a.isNaN && b.isNaN) := by
  obtain ⟨i, xs, ha⟩ := ha
  obtain ⟨j, ys, hb⟩ := hb
  rw [ha.canon_key, hb.canon_key, beqCanon_tagged]
  change _ = (beqCanon a.canon b.canon || a.isNaN && b.isNaN)
  -- Data of different kinds differ on both sides; a number is only known by where it lies.
  cases ha with
  | number hp =>
    rw [(canon_of_number hp).1, isNaN_of_number hp, beqCanon_of_number_left hp]
    cases hb with
    | number hq =>
      rw [(canon_of_number hq).1, beqAll, beqCanon_of_number_left hp]
      simp [beqAll]
    | _ =>
      rw [sameNumber, hp]
      rfl
  | text s =>
    cases hb with
    | number hq =>
      rw [(canon_of_number hq).1, isNaN_of_number hq, beqCanon_of_number_right hq]
      rfl
    | text t => simp [beqAll, canon, isNaN]
    | _ => rfl
  | @geometry g hg =>
    cases hb with
    | number hq =>
      rw [(canon_of_number hq).1, isNaN_of_number hq, beqCanon_of_number_right hq]
      rfl
    | @geometry h hh =>
      rw [beqAll, hg.beqCanon_key hh]
      change (true && ((g.toDatum == h.toDatum) && true)) = ((g.toDatum == h.toDatum) || false)
      rw [Bool.true_and, Bool.and_true, Bool.or_false]
    | _ => rfl
  | _ =>
    cases hb with
    | number hq =>
      rw [(canon_of_number hq).1, isNaN_of_number hq, beqCanon_of_number_right hq]
      rfl
    | _ => rfl

end Datum

/-! ## Values -/

namespace Value

/-- Regular contents, and units that are texts or missing. -/
def IsRegular (depth : Option String → Nat) : Value → Prop
  | .component c => IsContent depth c.value ∧ c.unit.IsText
  | .geometry g unit => (∀ h ∈ g, h.IsRegular depth) ∧ unit.IsText
  | .nil unit => unit.IsText
  | .other _ => False

/-- Equality of values with all NaNs counted as one. -/
def SameButNaN : Value → Value → Prop
  | .component a, .component b =>
    a.same b = true ∨ a.value.isNaN = true ∧ b.value.isNaN = true ∧
      Component.same { a with value := .null } { b with value := .null } = true
  | v, w => v.same w = true

variable {depth : Option String → Nat} {v w : Value}

theorem canon_keyOf (typeName : String) (content : Datum) (unit : UnitOfMeasure)
    (name definition : Option String) :
    (keyOf typeName content unit name definition).canon = .tuple [.text typeName, content.key.canon,
      unit.key.canon, SensorSeries.optionKey name, SensorSeries.optionKey definition] := by
  rw [keyOf, canon]
  simp only [canonAll, optionKey_canon]
  rfl

/-- The keys of two values of one form agree when all their parts do. -/
theorem beqCanon_keyOf {t t' : String} {c c' : Datum} {u u' : UnitOfMeasure}
    {n n' d d' : Option String} (hc : IsContent depth c) (hc' : IsContent depth c') :
    beqCanon (keyOf t c u n d).canon (keyOf t' c' u' n' d').canon =
      (t == t' && ((c == c' || c.isNaN && c'.isNaN) && (u == u' && (n == n' && d == d')))) := by
  rw [canon_keyOf, canon_keyOf, beqCanon_tuple]
  simp only [beqAll, beqCanon_text, hc.beqCanon_key hc', UnitOfMeasure.beqCanon_key,
    beqCanon_optionKey, Bool.and_true]

theorem alike_keyOf (hdepth : depth none = depth (some "")) {t t' : String} {c c' : Datum}
    {u u' : UnitOfMeasure} (hc : IsContent depth c) (hc' : IsContent depth c')
    (hu : u.IsText) (hu' : u'.IsText) (n n' d d' : Option String) :
    Alike (keyOf t c u n d).canon (keyOf t' c' u' n' d').canon := by
  obtain ⟨s, hs⟩ := hu
  obtain ⟨s', hs'⟩ := hu'
  rw [canon_keyOf, canon_keyOf, UnitOfMeasure.key_of_text hs, UnitOfMeasure.key_of_text hs',
    optionKey_canon, optionKey_canon]
  refine .tuple (.cons (.text t t') fun _ => .cons (hc.alike_key hdepth hc') fun _ => ?_)
  exact .cons (optionKey_alike s s') fun _ => .cons (optionKey_alike n n') fun _ =>
    .cons (optionKey_alike d d') fun _ => .nilLeft _

theorem isContent_geometryDatum {g : Option Geometry} (h : ∀ x ∈ g, x.IsRegular depth) :
    IsContent depth (geometryDatum g) := by
  cases g with
  | none => exact ⟨0, [], .null⟩
  | some g => exact ⟨3, [g.key], .geometry (h g rfl)⟩

/-- Any two regular values have keys of one form. -/
theorem IsRegular.exists_key (h : v.IsRegular depth) :
    ∃ (content : Datum) (unit : UnitOfMeasure) (name definition : Option String),
      v.key = .ok (keyOf v.typeName content unit name definition) ∧ IsContent depth content ∧
        unit.IsText := by
  cases v with
  | component c => exact ⟨c.value, c.unit, c.name, c.definition, rfl, h⟩
  | geometry g unit =>
    exact ⟨geometryDatum g, unit, none, none, rfl, isContent_geometryDatum h.1, h.2⟩
  | nil unit => exact ⟨.null, unit, none, none, rfl, ⟨0, [], .null⟩, h⟩
  | other d => exact h.elim

theorem IsRegular.alike_key (hdepth : depth none = depth (some "")) (hv : v.IsRegular depth)
    (hw : w.IsRegular depth) {k l : Datum} (hk : v.key = .ok k) (hl : w.key = .ok l) :
    Alike k.canon l.canon := by
  obtain ⟨c, u, n, d, hkey, hc, hu⟩ := hv.exists_key
  obtain ⟨c', u', n', d', hkey', hc', hu'⟩ := hw.exists_key
  cases hk.symm.trans hkey
  cases hl.symm.trans hkey'
  exact alike_keyOf hdepth hc hc' hu hu' n n' d d'

/-- The key of a value is longer than the one of a missing value. -/
theorem IsRegular.exists_canon (hv : v.IsRegular depth) {k : Datum} (hk : v.key = .ok k) :
    ∃ x xs, k.canon = .tuple (.text v.typeName :: x :: xs) := by
  obtain ⟨c, u, n, d, hkey, -⟩ := hv.exists_key
  cases hk.symm.trans hkey
  exact ⟨_, _, canon_keyOf ..⟩

theorem beq_typeName (a b : ComponentKind) : (a.typeName == b.typeName) = (a == b) := by
  cases a <;> cases b <;> decide

theorem typeName_ne (a : ComponentKind) :
    a.typeName ≠ "GeometryValue" ∧ a.typeName ≠ "NilTemplateValue" := by
  cases a <;> decide

theorem sameOption_geometry {g h : Option Geometry} (hg : ∀ x ∈ g, x.IsRegular depth)
    (hh : ∀ x ∈ h, x.IsRegular depth) :
    sameOption Geometry.same g h = (geometryDatum g == geometryDatum h) := by
  cases g with
  | none => cases h <;> rfl
  | some g =>
    cases h with
    | none => rfl
    | some h => exact (hg g rfl).beqCanon_key (hh h rfl)

theorem isNaN_geometryDatum (g : Option Geometry) : (geometryDatum g).isNaN = false := by
  cases g <;> rfl

/-- **Values with equal keys are equal**, if all NaNs count as one. -/
theorem IsRegular.beq_key_iff (hv : v.IsRegular depth) (hw : w.IsRegular depth) {k l : Datum}
    (hk : v.key = .ok k) (hl : w.key = .ok l) :
    beqCanon k.canon l.canon = true ↔ v.SameButNaN w := by
  have hnull : IsContent depth .null := ⟨0, [], .null⟩
  cases v with
  | component a =>
    cases hk
    obtain ⟨hgeometry, hnil⟩ := typeName_ne a.kind
    cases w with
    | component b =>
      cases hl
      rw [beqCanon_keyOf hv.1 hw.1, beq_typeName]
      simp only [SameButNaN, Component.same, Bool.and_eq_true, Bool.or_eq_true]
      have hsame : (Datum.null == Datum.null) = true := rfl
      tauto
    | geometry h u =>
      cases hl
      rw [beqCanon_keyOf hv.1 (isContent_geometryDatum hw.1)]
      simp [SameButNaN, Value.same, hgeometry]
    | nil u =>
      cases hl
      rw [beqCanon_keyOf hv.1 hnull]
      simp [SameButNaN, Value.same, hnil]
    | other d => exact hw.elim
  | geometry g u =>
    cases hk
    cases w with
    | component b =>
      cases hl
      rw [beqCanon_keyOf (isContent_geometryDatum hv.1) hw.1]
      simp [SameButNaN, Value.same, (typeName_ne b.kind).1.symm]
    | geometry h u' =>
      cases hl
      rw [beqCanon_keyOf (isContent_geometryDatum hv.1) (isContent_geometryDatum hw.1)]
      simp [SameButNaN, Value.same, sameOption_geometry hv.1 hw.1, isNaN_geometryDatum]
    | nil u' =>
      cases hl
      rw [beqCanon_keyOf (isContent_geometryDatum hv.1) hnull]
      simp [SameButNaN, Value.same]
    | other d => exact hw.elim
  | nil u =>
    cases hk
    cases w with
    | component b =>
      cases hl
      rw [beqCanon_keyOf hnull hw.1]
      simp [SameButNaN, Value.same, (typeName_ne b.kind).2.symm]
    | geometry h u' =>
      cases hl
      rw [beqCanon_keyOf hnull (isContent_geometryDatum hw.1)]
      simp [SameButNaN, Value.same]
    | nil u' =>
      cases hl
      rw [beqCanon_keyOf hnull hnull]
      have hsame : (Datum.null == Datum.null) = true := rfl
      simp [SameButNaN, Value.same, hsame]
    | other d => exact hw.elim
  | other d => exact hv.elim

end Value

end SensorSeries
