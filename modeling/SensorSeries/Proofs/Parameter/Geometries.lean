import SensorSeries.Proofs.Datum.NormalForm
import SensorSeries.Proofs.Parameter.Order

/-!
# Parameters that hold geometries

Two parameters that hold geometries are the same if their names, their geometries and their units
are (`same_geometry_iff`), and a parameter that is the same as one that holds a geometry holds one
as well (`exists_geometry_of_same`); it is a sampling geometry if the other one is
(`isSamplingGeometry_of_same`).
-/

namespace SensorSeries

/-! ## Geometries and their keys -/

namespace Geometry

open SensorSeries.Datum

theorem same_trans {g h i : Geometry} (hgh : g.same h = true) (hhi : h.same i = true) :
    g.same i = true :=
  beqCanon_trans _ hgh hhi

theorem sameOption_trans {g h i : Option Geometry} (hgh : sameOption same g h = true)
    (hhi : sameOption same h i = true) : sameOption same g i = true := by
  cases g with
  | none =>
    cases h with
    | none => exact hhi
    | some h => cases hgh
  | some g =>
    cases h with
    | none => cases hgh
    | some h =>
      cases i with
      | none => cases hhi
      | some i => exact same_trans hgh hhi

end Geometry

namespace Value

open SensorSeries.Datum

theorem geometryDatum_inj {g h : Option Geometry} (heq : geometryDatum g = geometryDatum h) :
    g = h := by
  cases g with
  | none =>
    cases h with
    | none => rfl
    | some h => cases heq
  | some g =>
    cases h with
    | none => cases heq
    | some h =>
      obtain ⟨kind, coordinates, srid⟩ := g
      obtain ⟨kind', coordinates', srid'⟩ := h
      obtain ⟨rfl, rfl, rfl⟩ : kind = kind' ∧ coordinates = coordinates' ∧ srid = srid' := by
        simpa [geometryDatum, Geometry.toDatum] using heq
      rfl

/-- Geometries with equal keys are equal, also among those that are missing. -/
theorem beqCanon_geometryKey (g h : Option Geometry) :
    beqCanon (geometryDatum g).key.canon (geometryDatum h).key.canon =
      sameOption Geometry.same g h := by
  have hkey (g : Geometry) : (geometryDatum (some g)).key.canon = .tuple [.int 3, g.key] :=
    congrArg (fun d => Datum.tuple [.int 3, d]) g.canon_key
  have hnone : (geometryDatum none).key.canon = .tuple [.int 0] := rfl
  cases g with
  | none =>
    cases h with
    | none => simp [hnone, beqCanon_tagged, beqAll, sameOption]
    | some h => simp [hnone, hkey, beqCanon_tagged, sameOption]
  | some g =>
    cases h with
    | none => simp [hnone, hkey, beqCanon_tagged, sameOption]
    | some h => simp [hkey, beqCanon_tagged, beqAll, sameOption, Geometry.same]

/-- Only a geometry has a key that is equal to the one of a geometry. -/
theorem exists_geometry_of_key {v : Option Value} {g : Option Geometry} {u : UnitOfMeasure}
    {k : Datum} (hk : optionKey v = .ok k)
    (heq : beqCanon k.canon (keyOf "GeometryValue" (geometryDatum g) u none none).canon = true) :
    ∃ h w, v = some (.geometry h w) := by
  rw [canon_keyOf] at heq
  cases v with
  | none =>
    cases hk
    simp [canon, canonAll, beqCanon_tuple, beqAll] at heq
  | some v =>
    cases v with
    | component c =>
      cases hk
      simp [canon_keyOf, beqCanon_tuple, beqAll, beqCanon_text, (typeName_ne c.kind).1] at heq
    | geometry h w => exact ⟨h, w, rfl⟩
    | nil w =>
      cases hk
      simp [canon_keyOf, beqCanon_tuple, beqAll, beqCanon_text] at heq
    | other d => cases hk

end Value

namespace Parameter

open SensorSeries.NamedValue SensorSeries.Datum

/-- A parameter that holds a geometry. -/
def geometry (name : Option Reference) (g : Option Geometry) (unit : UnitOfMeasure) : Parameter :=
  .named ⟨name, some (.geometry g unit)⟩

/-- Whether the parameter is a sampling geometry; a datum that is no named value is none. -/
def isSamplingGeometry : Parameter → Bool
  | .named n => n.isSamplingGeometry
  | .other _ => false

/-- The parameter with the image of its geometry in the place of it. -/
def mapGeometry (f : Option Geometry → Option Geometry) : Parameter → Parameter
  | .named ⟨name, some (.geometry g unit)⟩ => geometry name (f g) unit
  | p => p

variable {p q : Parameter} {r s : Option Reference} {g h : Option Geometry} {u v : UnitOfMeasure}
  {f : Option Geometry → Option Geometry}

@[simp] theorem mapGeometry_geometry (f : Option Geometry → Option Geometry)
    (r : Option Reference) (g : Option Geometry) (u : UnitOfMeasure) :
    (geometry r g u).mapGeometry f = geometry r (f g) u := rfl

/-! ## Equality -/

theorem same_geometry_iff : (geometry r g u).same (geometry s h v) = .ok true ↔
    SameName r s ∧ sameOption Geometry.same g h = true ∧ (u == v) = true := by
  unfold geometry
  rw [Parameter.same, key_eq rfl, key_eq rfl, ok_bind, ok_bind, pure_eq_ok, Except.ok.injEq]
  change beqCanon (Datum.canon (.tuple [_, _])) (Datum.canon (.tuple [_, _])) = true ↔ _
  rw [canon_pair, canon_pair, Value.canon_keyOf, Value.canon_keyOf]
  simp only [beqCanon_tuple, beqAll, beqCanon_text, Value.beqCanon_geometryKey,
    UnitOfMeasure.beqCanon_key, beqCanon_optionKey, beq_self_eq_true, Bool.and_true, Bool.true_and,
    Bool.and_eq_true, beq_nameKey_iff]

/-- What is the same as a parameter that holds a geometry holds one as well. -/
theorem exists_geometry_of_same (h : p.same (geometry r g u) = .ok true) :
    ∃ s h v, p = geometry s h v := by
  cases p with
  | other d => cases h
  | named n =>
    unfold geometry at h
    rw [Parameter.same, key_eq (a := ⟨r, some (.geometry g u)⟩) rfl] at h
    cases hk : Value.optionKey n.value with
    | error e =>
      rw [NamedValue.key, hk] at h
      cases h
    | ok k =>
      rw [key_eq hk, ok_bind, ok_bind, pure_eq_ok, Except.ok.injEq] at h
      change beqCanon (Datum.canon (.tuple [_, _])) (Datum.canon (.tuple [_, _])) = true at h
      rw [canon_pair, canon_pair, beqCanon_tuple, beqAll, beqAll, beqAll, Bool.and_true,
        Bool.and_eq_true] at h
      obtain ⟨name, value⟩ := n
      obtain ⟨i, v, rfl⟩ := Value.exists_geometry_of_key hk h.2
      exact ⟨name, i, v, rfl⟩

theorem exists_geometry_of_identical (h : q.identical (geometry r g u) = true) :
    ∃ v, q = geometry r g v ∧ (v == u) = true := by
  cases q with
  | other d => cases h
  | named n =>
    obtain ⟨name, value⟩ := n
    obtain ⟨rfl, hvalue⟩ : name = r ∧
        sameOption Value.identical value (some (.geometry g u)) = true := by
      simpa [geometry, identical] using h
    cases value with
    | none => cases hvalue
    | some w =>
      cases w with
      | geometry i v =>
        have hparts : (Value.geometryDatum i).identical (Value.geometryDatum g) = true ∧
            (v == u) = true := by
          simpa [sameOption, Value.identical] using hvalue
        obtain rfl := Value.geometryDatum_inj (eq_of_identical _ hparts.1)
        exact ⟨v, rfl, hparts.2⟩
      | _ => cases hvalue

/-- A parameter that is in every respect one that holds a geometry is the same, if that one is the
same as itself: a geometry that holds a NaN is not. -/
theorem same_of_identical (h : q.identical (geometry r g u) = true)
    (hself : (geometry r g u).same (geometry r g u) = .ok true) :
    q.same (geometry r g u) = .ok true := by
  obtain ⟨hname, hgeometry, -⟩ := same_geometry_iff.1 hself
  obtain ⟨v, rfl, hunit⟩ := exists_geometry_of_identical h
  exact same_geometry_iff.2 ⟨hname, hgeometry, hunit⟩

theorem sameOrIdentical_geometry (hself : (geometry r g u).same (geometry r g u) = .ok true)
    {b : Bool} (h : q.same (geometry r g u) = .ok b) :
    q.sameOrIdentical (geometry r g u) = .ok b := by
  unfold sameOrIdentical
  split
  · next hidentical => exact (same_of_identical hidentical hself).symm.trans h
  · exact h

/-! ## Sampling geometries -/

theorem isSamplingGeometry_geometry : (geometry r g u).isSamplingGeometry = true ↔
    r.bind (·.href) = some Vocabulary.samplingGeometry := by
  change (NamedValue.hasName ⟨r, _⟩ _ && true) = true ↔ _
  rw [Bool.and_true, hasName, Bool.and_eq_true, beq_iff_eq, and_iff_right_iff_imp]
  intro hhref
  cases r with
  | none => cases hhref
  | some r =>
    have hr : r.href = some Vocabulary.samplingGeometry := hhref
    simp [isSetName, Reference.isSetHref, hr, isFilled, Vocabulary.samplingGeometry]

theorem exists_geometry (h : p.isSamplingGeometry = true) : ∃ r g u, p = geometry r g u := by
  cases p with
  | other d => cases h
  | named n =>
    obtain ⟨name, value⟩ := n
    obtain ⟨-, hvalue⟩ := Bool.and_eq_true_iff.1 h
    cases value with
    | none => cases hvalue
    | some w =>
      cases w with
      | geometry g u => exact ⟨name, g, u, rfl⟩
      | _ => cases hvalue

/-- Names that are the same have the same address, unless it says nothing. -/
theorem href_of_sameName {name : String} (hname : name ≠ "") (h : SameName r s)
    (hs : s.bind (·.href) = some name) : r.bind (·.href) = some name := by
  cases s with
  | none => cases hs
  | some s =>
    cases r with
    | none => exact h.elim
    | some r =>
      have hs : s.href = some name := hs
      have hhref : r.href.getD "" = name := by
        rw [h.1, hs]
        rfl
      cases hr : r.href with
      | none =>
        rw [hr] at hhref
        exact absurd hhref.symm hname
      | some t =>
        rw [hr] at hhref
        exact hr.trans (congrArg some hhref)

/-- What is the same as a sampling geometry is one. -/
theorem isSamplingGeometry_of_same (h : p.same q = .ok true) (hq : q.isSamplingGeometry = true) :
    p.isSamplingGeometry = true := by
  obtain ⟨s, i, v, rfl⟩ := exists_geometry hq
  obtain ⟨r, g, u, rfl⟩ := exists_geometry_of_same h
  rw [isSamplingGeometry_geometry] at hq ⊢
  exact href_of_sameName (by decide) (same_geometry_iff.1 h).1 hq

/-- What is taken for a sampling geometry, equal or identical to it, is one. -/
theorem isSamplingGeometry_of_sameOrIdentical (h : p.sameOrIdentical q = .ok true)
    (hq : q.isSamplingGeometry = true) : p.isSamplingGeometry = true := by
  unfold sameOrIdentical at h
  split at h
  · next hidentical =>
    obtain ⟨r, g, u, rfl⟩ := exists_geometry hq
    obtain ⟨v, rfl, -⟩ := exists_geometry_of_identical hidentical
    exact isSamplingGeometry_geometry.2 (isSamplingGeometry_geometry.1 hq)
  · exact isSamplingGeometry_of_same h hq

theorem isSamplingGeometry_mapGeometry (f : Option Geometry → Option Geometry)
    (h : p.isSamplingGeometry = true) : (p.mapGeometry f).isSamplingGeometry = true := by
  obtain ⟨r, g, u, rfl⟩ := exists_geometry h
  rw [mapGeometry_geometry, isSamplingGeometry_geometry]
  exact isSamplingGeometry_geometry.1 h

end Parameter

end SensorSeries
