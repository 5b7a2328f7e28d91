import SensorSeries.Proofs.Parameter.Geometries
import SensorSeries.Proofs.Parameter.Sets
import SensorSeries.Proofs.Stream.Crs
import SensorSeries.Proofs.Stream.Uses
import SensorSeries.Rehearsal.Source

/-!
# Reprojected parameters

A transformer may map one sampling geometry to another one that has not been replaced yet; then the
two are one until the second one is replaced in turn. `Partly` is what holds in between. It carries
over from one replacement to the next if the transformer respects the equality of geometries and
leaves its own results as they are (`Partly.replace`), and so in the end every sampling geometry has
its image in the set, and nothing else has changed (`Reprojected`).
-/

namespace SensorSeries

namespace ParameterSet

variable {β : Type} [LinearOrder β] {P : Parameter → Prop} {rank : Parameter → β}
  {set : ParameterSet} {ranks : Finset β} {p q : Parameter}
  {f : Option Geometry → Option Geometry} {items done todo : List Parameter}

/-! ## One replacement -/

namespace Holds

variable (hranked : Parameter.Ranked P rank) (hset : Holds P rank set ranks)
include hranked hset

/-- Taking out a sampling geometry keeps all other parameters. -/
theorem takeOut_frame (hp : p ∈ set.items) (hsampling : p.isSamplingGeometry = true) :
    ∃ after, Reprojection.takeOut set p = .ok after ∧
      Holds P rank after (ranks.erase (rank p)) ∧
      (∀ q, q ∈ after.items ↔ q ∈ set.items ∧ q ≠ p) ∧
      ∀ test : Parameter → Bool, test p = false →
        after.items.filter test = set.items.filter test := by
  have htest : ∀ q ∈ set.items, q.sameOrIdentical p = .ok (decide (rank q = rank p)) := by
    intro q hq
    have hself := (hranked.same_iff (hset.within p hp) (hset.within p hp)).2 rfl
    have hsame := hset.same_eq hranked (hset.within p hp) q hq
    obtain ⟨r, g, u, rfl⟩ := Parameter.exists_geometry hsampling
    exact Parameter.sameOrIdentical_geometry hself hsame
  obtain ⟨front, x, rest, hitems, hx, hremove⟩ :=
    removeFirst_of_mem htest (List.mem_map_of_mem hp)
  obtain rfl : x = p := hset.eq_of_rank_eq (by simp [hitems]) hp hx
  obtain rfl : set = ⟨front ++ x :: rest⟩ := congrArg ParameterSet.mk hitems
  have hafter := hset.dropped
  refine ⟨⟨front ++ rest⟩, ?_, hafter, ?_, ?_⟩
  · rw [Reprojection.takeOut, hremove]
    rfl
  · intro q
    constructor
    · intro hq
      have hrank : rank q ∈ ranks.erase (rank x) :=
        (hafter.mem_iff _).2 (List.mem_map_of_mem hq)
      refine ⟨?_, fun heq => (Finset.mem_erase.1 hrank).1 (congrArg rank heq)⟩
      rw [List.mem_append] at hq
      rw [List.mem_append, List.mem_cons]
      tauto
    · intro ⟨hq, hne⟩
      rw [List.mem_append, List.mem_cons] at hq
      rw [List.mem_append]
      tauto
  · intro test hx
    rw [List.filter_append, List.filter_append,
      List.filter_cons_of_neg (by rw [hx]; exact Bool.false_ne_true)]

end Holds

/-! ## Images -/

/-- A map of geometries that respects their equality and, on the sampling geometries of a list,
leaves its own results as they are. -/
structure IsProjection (f : Option Geometry → Option Geometry) (items : List Parameter) : Prop where
  respects : ∀ {g h}, sameOption Geometry.same g h = true →
    sameOption Geometry.same (f g) (f h) = true
  settles : ∀ {r g u}, .geometry r g u ∈ items →
    (Parameter.geometry r g u).isSamplingGeometry = true →
    sameOption Geometry.same (f (f g)) (f g) = true

/-- Sorted parameters that can all be compared, also with the images of the sampling geometries
among them. -/
structure Comparable (P : Parameter → Prop) (rank : Parameter → β)
    (f : Option Geometry → Option Geometry) (items : List Parameter) : Prop where
  ranked : Parameter.Ranked P rank
  within : ∀ p ∈ items, P p
  images : ∀ p ∈ items, p.isSamplingGeometry = true → P (p.mapGeometry f)
  sorted : items.Pairwise fun p q => p.before q = .ok true

namespace Comparable

variable (hcomparable : Comparable P rank f items)
include hcomparable

/-- What is the same as an image has the same image. -/
theorem rank_eq (hf : IsProjection f items) (hp : p ∈ items) (hps : p.isSamplingGeometry = true)
    (hq : q ∈ items) (hqs : q.isSamplingGeometry = true) (h : rank p = rank (q.mapGeometry f)) :
    rank (p.mapGeometry f) = rank (q.mapGeometry f) := by
  have hpimage := hcomparable.images p hp hps
  have hqimage := hcomparable.images q hq hqs
  rw [← hcomparable.ranked.same_iff (hcomparable.within p hp) hqimage] at h
  rw [← hcomparable.ranked.same_iff hpimage hqimage]
  obtain ⟨r, g, u, rfl⟩ := Parameter.exists_geometry hps
  obtain ⟨s, i, v, rfl⟩ := Parameter.exists_geometry hqs
  obtain ⟨hname, hgeometry, hunit⟩ := Parameter.same_geometry_iff.1 h
  have htwice := hf.respects hgeometry
  exact Parameter.same_geometry_iff.2
    ⟨hname, Geometry.sameOption_trans htwice (hf.settles hq hqs), hunit⟩

/-- A sampling geometry is the same as its image if its geometry is. -/
theorem rank_eq_iff {r : Option Reference} {g : Option Geometry} {u : UnitOfMeasure}
    (hmem : .geometry r g u ∈ items)
    (hsampling : (Parameter.geometry r g u).isSamplingGeometry = true) :
    rank (.geometry r (f g) u) = rank (.geometry r g u) ↔
      sameOption Geometry.same (f g) g = true := by
  have hP := hcomparable.within _ hmem
  have himage : P (.geometry r (f g) u) := hcomparable.images _ hmem hsampling
  have hself := (hcomparable.ranked.same_iff hP hP).2 rfl
  obtain ⟨hname, -, hunit⟩ := Parameter.same_geometry_iff.1 hself
  rw [← hcomparable.ranked.same_iff himage hP, Parameter.same_geometry_iff]
  exact ⟨fun h => h.2.1, fun h => ⟨hname, h, hunit⟩⟩

end Comparable

/-! ## A set in the middle of it -/

/-- A set after some of its sampling geometries have been replaced by their images and before the
others are: what has not come yet is still there, and what has come is there as its image. -/
structure Partly (P : Parameter → Prop) (rank : Parameter → β)
    (f : Option Geometry → Option Geometry) (done todo : List Parameter) (set : ParameterSet)
    (ranks : Finset β) : Prop where
  holds : Holds P rank set ranks
  nodup : (done ++ todo).Nodup
  others : set.items.filter (!·.isSamplingGeometry) =
    (done ++ todo).filter (!·.isSamplingGeometry)
  waiting : ∀ p ∈ todo, p ∈ set.items
  origin : ∀ q ∈ set.items, q.isSamplingGeometry = true →
    q ∈ todo ∨ ∃ p ∈ done, p.isSamplingGeometry = true ∧ q = p.mapGeometry f
  images : ∀ p ∈ done, p.isSamplingGeometry = true → rank (p.mapGeometry f) ∈ ranks

namespace Partly

theorem start (hset : Holds P rank set ranks) : Partly P rank f [] set.items set ranks where
  holds := hset
  nodup := hset.nodup_ranks.of_map rank
  others := rfl
  waiting _ hp := hp
  origin _ hq _ := .inl hq
  images := List.forall_mem_nil _

/-- What is no sampling geometry stays as it is. -/
theorem skip (h : Partly P rank f done (p :: todo) set ranks) (hp : p.isSamplingGeometry = false) :
    Partly P rank f (done ++ [p]) todo set ranks where
  holds := h.holds
  nodup := by simpa using h.nodup
  others := by simpa using h.others
  waiting q hq := h.waiting q (List.mem_cons_of_mem _ hq)
  origin := by
    intro q hq hsampling
    rcases h.origin q hq hsampling with hmem | ⟨d, hd, hds, heq⟩
    · rcases List.mem_cons.1 hmem with rfl | hmem
      · rw [hp] at hsampling
        cases hsampling
      · exact .inl hmem
    · exact .inr ⟨d, List.mem_append_left _ hd, hds, heq⟩
  images := by
    intro d hd hds
    rcases List.mem_append.1 hd with hd | hd
    · exact h.images d hd hds
    · rw [List.mem_singleton.1 hd, hp] at hds
      cases hds

/-- **A sampling geometry is replaced by its image.** Where the image of another one was the same as
it and goes with it, its own image is the same as that one and takes the place of both. -/
theorem replace (h : Partly P rank f done (p :: todo) set ranks)
    (hcomparable : Comparable P rank f (done ++ p :: todo))
    (hf : IsProjection f (done ++ p :: todo)) (hp : p.isSamplingGeometry = true) :
    ∃ rest after ranks', Reprojection.takeOut set p = .ok rest ∧
      rest.add (p.mapGeometry f) = .ok after ∧ Partly P rank f (done ++ [p]) todo after ranks' := by
  have hmem : p ∈ done ++ p :: todo := by simp
  have hpset := h.waiting p (List.mem_cons_self ..)
  have hranked := hcomparable.ranked
  have himage := hcomparable.images p hmem hp
  have hsampling := Parameter.isSamplingGeometry_mapGeometry f hp
  obtain ⟨rest, htake, hrest, hmemrest, hothers⟩ := h.holds.takeOut_frame hranked hpset hp
  obtain ⟨after, hadd, hafter, hkept, horigin, hothers'⟩ := hrest.add_frame hranked himage
  refine ⟨rest, after, _, htake, hadd, hafter, ?_, ?_, ?_, ?_, ?_⟩
  · simpa using h.nodup
  · rw [hothers' _ (by simp [hsampling]), hothers _ (by simp [hp]), h.others]
    simp
  · intro q hq
    have hne : q ≠ p := by
      have hnodup := (List.nodup_append.1 h.nodup).2.1
      exact fun heq => (List.nodup_cons.1 hnodup).1 (heq ▸ hq)
    exact hkept q ((hmemrest q).2 ⟨h.waiting q (List.mem_cons_of_mem _ hq), hne⟩)
  · intro q hq hsampling
    rcases horigin q hq with hq | rfl
    · obtain ⟨hqset, hne⟩ := (hmemrest q).1 hq
      rcases h.origin q hqset hsampling with hq | ⟨d, hd, hds, rfl⟩
      · exact .inl ((List.mem_cons.1 hq).resolve_left hne)
      · exact .inr ⟨d, List.mem_append_left _ hd, hds, rfl⟩
    · exact .inr ⟨p, by simp, hp, rfl⟩
  · intro d hd hds
    rcases List.mem_append.1 hd with hd | hd
    · by_cases hrank : rank (d.mapGeometry f) = rank p
      · have hsame := hcomparable.rank_eq hf hmem hp (List.mem_append_left _ hd) hds hrank.symm
        rw [hsame]
        exact Finset.mem_insert_self ..
      · exact Finset.mem_insert_of_mem (Finset.mem_erase.2 ⟨hrank, h.images d hd hds⟩)
    · rw [List.mem_singleton.1 hd]
      exact Finset.mem_insert_self ..

end Partly

/-! ## The whole of it -/

/-- What a set is like after its sampling geometries have been replaced by their images. -/
structure Reprojected (f : Option Geometry → Option Geometry) (before after : ParameterSet) :
    Prop where
  increasing : after.items.Pairwise fun p q => p.before q = .ok true
  /-- What is no sampling geometry is as it was, in its order. -/
  others : after.items.filter (!·.isSamplingGeometry) =
    before.items.filter (!·.isSamplingGeometry)
  origin : ∀ q ∈ after.items, q.isSamplingGeometry = true →
    ∃ p ∈ before.items, p.isSamplingGeometry = true ∧ q = p.mapGeometry f
  image : ∀ p ∈ before.items, p.isSamplingGeometry = true →
    after.contains (p.mapGeometry f) = .ok true
  /-- An old geometry is only left if its image is the same. -/
  original : ∀ {r g u}, .geometry r g u ∈ before.items →
    (Parameter.geometry r g u).isSamplingGeometry = true →
    after.contains (.geometry r g u) = .ok (sameOption Geometry.same (f g) g)

theorem Partly.reprojected {before : ParameterSet} (h : Partly P rank f before.items [] set ranks)
    (hcomparable : Comparable P rank f before.items) (hf : IsProjection f before.items) :
    Reprojected f before set where
  increasing := (h.holds.isSortedSet hcomparable.ranked).increasing
  others := by simpa using h.others
  origin := by
    intro q hq hsampling
    exact (h.origin q hq hsampling).resolve_left (List.not_mem_nil)
  image := by
    intro p hp hsampling
    rw [h.holds.contains_eq hcomparable.ranked (hcomparable.images p hp hsampling),
      decide_eq_true (h.images p hp hsampling)]
  original := by
    intro r g u hmem hsampling
    have hP := hcomparable.within _ hmem
    rw [h.holds.contains_eq hcomparable.ranked hP, Except.ok.injEq, Bool.eq_iff_iff,
      decide_eq_true_iff, ← hcomparable.rank_eq_iff hmem hsampling]
    constructor
    · intro hrank
      obtain ⟨x, hx, hsame⟩ := List.mem_map.1 ((h.holds.mem_iff _).1 hrank)
      have hxs := Parameter.isSamplingGeometry_of_same
        ((hcomparable.ranked.same_iff (h.holds.within x hx) hP).2 hsame) hsampling
      obtain ⟨d, hd, hds, rfl⟩ := (h.origin x hx hxs).resolve_left List.not_mem_nil
      exact (hcomparable.rank_eq hf hmem hsampling hd hds hsame.symm).trans hsame
    · intro hrank
      rw [← hrank]
      exact h.images _ hmem hsampling

end ParameterSet

namespace Reprojection

open SensorSeries.Action SensorSeries.Datum SensorSeries.ParameterSet

variable {τ β : Type} [LinearOrder β] {P : Parameter → Prop} {rank : Parameter → β}
  {set rest after : ParameterSet} {ranks : Finset β} {p q : Parameter}
  {f : Option Geometry → Option Geometry} {done todo : List Parameter} {t : Transformer τ}
  {target : Int}

theorem replace_ok (htake : takeOut set p = .ok rest) (hadd : rest.add q = .ok after) (b : τ) :
    (replace p q).EndsIn (b, set) fun a x => a = .ok () ∧ x = (b, after) := by
  unfold replace
  rw [endsIn_bind, endsIn_get, continues_ok, endsIn_bind, endsIn_lift, htake, continues_ok,
    endsIn_bind, endsIn_modify, continues_ok, endsIn_bind, endsIn_lift, hadd, continues_ok,
    endsIn_modify]
  exact ⟨rfl, rfl⟩

/-- Without a transformer nothing is replaced. -/
theorem replaceAll_none (hnamed : ∀ p ∈ todo, ∃ n, p = .named n) (x : τ × ParameterSet) :
    (replaceAll none target todo).EndsIn x fun a y => a = .ok () ∧ y = x := by
  induction todo with
  | nil => exact ⟨rfl, rfl⟩
  | cons p todo ih =>
    obtain ⟨⟨n, rfl⟩, hrest⟩ := List.forall_mem_cons.1 hnamed
    rw [replaceAll, endsIn_bind, endsIn_lift, Parameter.asNamed, continues_ok]
    split
    · rw [endsIn_note]
      exact ⟨rfl, rfl⟩
    · exact ih hrest

/-- A transformer that never fails on the sampling geometries of a list, and what it makes of
them. -/
structure Projects (t : Transformer τ) (target : Int) (f : Option Geometry → Option Geometry)
    (items : List Parameter) : Prop extends IsProjection f items where
  computes : ∀ {r g u}, .geometry r g u ∈ items →
    (Parameter.geometry r g u).isSamplingGeometry = true →
    ∀ b, (t.transform g target).EndsIn b fun a _ => a = .ok (f g)

/-- One replacement after the other, a set that is partly reprojected becomes one that is wholly
so. -/
theorem replaceAll_partly (hcomparable : Comparable P rank f (done ++ todo))
    (hprojects : Projects t target f (done ++ todo))
    (hnamed : ∀ p ∈ todo, ∃ n, p = .named n) (h : Partly P rank f done todo set ranks) (b : τ) :
    (replaceAll (some t) target todo).EndsIn (b, set) fun a x =>
      a = .ok () ∧ ∃ ranks, Partly P rank f (done ++ todo) [] x.2 ranks := by
  induction todo generalizing done set ranks b with
  | nil =>
    rw [List.append_nil]
    exact ⟨rfl, ranks, h⟩
  | cons p todo ih =>
    obtain ⟨⟨n, rfl⟩, hrest⟩ := List.forall_mem_cons.1 hnamed
    have hnext : done ++ .named n :: todo = (done ++ [.named n]) ++ todo := by simp
    rw [replaceAll, endsIn_bind, endsIn_lift, Parameter.asNamed, continues_ok]
    split
    · next g unit hsampling hvalue =>
      obtain ⟨name, _⟩ := n
      obtain rfl := hvalue
      have hmem : .geometry name g unit ∈ done ++ .geometry name g unit :: todo := by simp
      obtain ⟨rest, after, ranks', htake, hadd, hafter⟩ :=
        h.replace hcomparable hprojects.toIsProjection hsampling
      rw [endsIn_bind, endsIn_note, continues_ok]
      have himage : (onFirst (t.transform g target)).EndsIn (b, set) fun a x =>
          a = .ok (f g) ∧ ∃ b, x = (b, set) := by
        rw [endsIn_onFirst]
        refine (hprojects.computes hmem hsampling b).mono ?_
        intro a b' ha
        exact ⟨ha, b', rfl⟩
      refine himage.bind_ok ?_
      rintro _ ⟨b', rfl⟩
      refine (replace_ok htake hadd b').bind_ok ?_
      rintro _ rfl
      rw [hnext] at hcomparable hprojects ⊢
      exact ih hcomparable hprojects hrest hafter b'
    · next hother =>
      have hp : (Parameter.named n).isSamplingGeometry = false := by
        rw [Bool.eq_false_iff]
        intro hsampling
        obtain ⟨r, g, u, heq⟩ := Parameter.exists_geometry hsampling
        cases heq
        exact hother g u hsampling rfl
      rw [hnext] at hcomparable hprojects ⊢
      exact ih hcomparable hprojects hrest (h.skip hp) b

theorem replaceAll_reprojected (hcomparable : Comparable P rank f set.items)
    (hprojects : Projects t target f set.items)
    (hnamed : ∀ p ∈ set.items, ∃ n, p = .named n) (b : τ) :
    (replaceAll (some t) target set.items).EndsIn (b, set) fun a x =>
      a = .ok () ∧ Reprojected f set x.2 := by
  have hset := Holds.of_sorted hcomparable.ranked hcomparable.within hcomparable.sorted
  rw [← List.nil_append set.items] at hcomparable hprojects
  refine (replaceAll_partly hcomparable hprojects hnamed (.start hset) b).mono ?_
  rintro a x ⟨ha, ranks, hpartly⟩
  rw [List.nil_append] at hcomparable hprojects hpartly
  exact ⟨ha, hpartly.reprojected hcomparable hprojects.toIsProjection⟩

/-- A geometry with another reference system. -/
def relabelled (target : Int) (g : Geometry) : Geometry := { g with srid := .int target }

theorem relabelled_same {g h : Geometry} (hsame : g.same h = true) (target : Int) :
    (relabelled target g).same (relabelled target h) = true := by
  unfold Geometry.same Geometry.key at hsame
  unfold Geometry.same Geometry.key relabelled Geometry.sridKey
  simp only [beqCanon_tuple, beqAll, Bool.and_eq_true, canon, beqCanon_int] at hsame ⊢
  simp [hsame.1, hsame.2.1]

/-- Relabelling settles geometries that are not missing and the same as themselves afterwards. -/
theorem relabelled_isProjection {items : List Parameter}
    (hpresent : ∀ {r g u}, .geometry r g u ∈ items →
      (Parameter.geometry r g u).isSamplingGeometry = true →
      ∃ h, g = some h ∧ (relabelled target h).same (relabelled target h) = true) :
    IsProjection (Option.map (relabelled target)) items where
  respects := by
    intro g h hsame
    cases g with
    | none =>
      cases h with
      | none => rfl
      | some h => cases hsame
    | some g =>
      cases h with
      | none => cases hsame
      | some h => exact relabelled_same hsame target
  settles := by
    intro r g u hmem hsampling
    obtain ⟨h, rfl, hself⟩ := hpresent hmem hsampling
    exact hself

theorem relabel_projects {items : List Parameter}
    (hpresent : ∀ {r g u}, .geometry r g u ∈ items →
      (Parameter.geometry r g u).isSamplingGeometry = true →
      ∃ h, g = some h ∧ (relabelled target h).same (relabelled target h) = true) :
    Projects (Imitation.relabel.transformer none) target (Option.map (relabelled target))
      items where
  toIsProjection := relabelled_isProjection hpresent
  computes := by
    intro r g u hmem hsampling b
    obtain ⟨h, rfl, -⟩ := hpresent hmem hsampling
    rfl

end Reprojection

namespace Stream

open SensorSeries.Action SensorSeries.ParameterSet

variable {σ : Type}

/-- **Reprojecting replaces the sampling geometries and nothing else.** If no reference system is
asked for, or the option names none, or there is no transformer, the parameters of a set stay as
they are; in the second case the failure tells the option. Otherwise, if the transformer respects
the equality of geometries, leaves its own results as they are and does not fail, every sampling
geometry has its image in the set afterwards, with the same name and unit; an old one is left only
where it is its own image; all other parameters are as they were, and the set is sorted. -/
theorem modified_reprojects (transformer : Option (Transformer σ)) (s : Stream σ)
    (ps : ParameterSet) :
    (Datum.field? s.options Vocabulary.crs = none →
      (modified transformer ps).EndsIn s fun a u => a = .ok (.ok (), ps) ∧ u = s) ∧
    ∀ option, Datum.field? s.options Vocabulary.crs = some option →
      ((∀ n, ¬ Crs.Names option n) → ∃ reason, (modified transformer ps).EndsIn s fun a u =>
        a = .ok (.error (.badParameter (.text Vocabulary.crs) option (.text reason)), ps) ∧
          u = s) ∧
      ∀ target, Crs.Names option target → (∀ p ∈ ps.items, ∃ n, p = .named n) →
        (transformer = none →
          (modified transformer ps).EndsIn s fun a u => a = .ok (.ok (), ps) ∧ u = s) ∧
        ∀ t ∈ transformer, ∀ {β : Type} [LinearOrder β] {P : Parameter → Prop}
          {rank : Parameter → β} {f : Option Geometry → Option Geometry},
          Comparable P rank f ps.items → Reprojection.Projects t target f ps.items →
            (modified transformer ps).EndsIn s fun a u => ∃ after b,
              a = .ok (.ok (), after) ∧ u = { s with backing := b } ∧ Reprojected f ps after := by
  simp only [endsIn_modified]
  refine ⟨fun hoption => ?_, fun option hoption => ⟨fun hnameless => ?_, ?_⟩⟩
  · rw [apply_of_no_crs hoption]
    exact ⟨rfl, rfl⟩
  · obtain ⟨reason, hread⟩ := Crs.read_of_nameless hnameless
    refine ⟨reason, ?_⟩
    rw [Reprojection.apply, hoption]
    dsimp only
    rw [hread]
    exact ⟨rfl, rfl⟩
  · intro target hnames hnamed
    have happly (transformer : Option (Transformer σ)) :
        Reprojection.apply s.options transformer = Action.get >>= fun x =>
          Reprojection.replaceAll transformer target x.2.items := by
      rw [Reprojection.apply, hoption]
      dsimp only
      rw [Crs.read_of_names hnames]
      rfl
    constructor
    · intro hnone
      obtain rfl := hnone
      rw [happly, endsIn_bind, endsIn_get, continues_ok]
      refine (Reprojection.replaceAll_none hnamed _).mono ?_
      rintro a x ⟨rfl, rfl⟩
      exact ⟨rfl, rfl⟩
    · intro t ht β _ P rank f hcomparable hprojects
      obtain rfl : transformer = some t := ht
      rw [happly, endsIn_bind, endsIn_get, continues_ok]
      refine (Reprojection.replaceAll_reprojected hcomparable hprojects hnamed s.backing).mono ?_
      rintro a x ⟨rfl, hafter⟩
      exact ⟨x.2, x.1, rfl, rfl, hafter⟩

/-- Of two sampling geometries that only differ in their reference system one is the image of the
other, and the only one that is left. -/
theorem modified_reprojects_relabelled :
    let name := some (Reference.ofText Vocabulary.samplingGeometry)
    let unit := UnitOfMeasure.missing
    let point (srid : Int) : Option Geometry :=
      some ⟨.text "Point", .list [.int 8, .int 53], .int srid⟩
    let height := Parameter.named
      ⟨some (Reference.ofText Vocabulary.height), some (.quantity (.int 3) unit)⟩
    let old := Parameter.geometry name (point 4326) unit
    let new := Parameter.geometry name (point 25832) unit
    let ps : ParameterSet := ⟨[height, old, new]⟩
    let stream (option : Datum) : Stream (List Int) :=
      { backing := [], template := {}, options := [(Vocabulary.crs, option)] }
    let transformer := some (Imitation.relabel.transformer none)
    (modified none ps).EndsIn (stream (.int 25832)) (fun a _ => a = .ok (.ok (), ps)) ∧
    (∃ reason, (modified transformer ps).EndsIn (stream (.bool true)) fun a _ => a =
      .ok (.error (.badParameter (.text Vocabulary.crs) (.bool true) (.text reason)), ps)) ∧
    (modified transformer ps).EndsIn (stream (.text " 25832 ")) fun a _ => ∃ after,
      a = .ok (.ok (), after) ∧ after.items.filter (!·.isSamplingGeometry) = [height] ∧
        after.contains new = .ok true ∧ after.contains old = .ok false := by
  intro name unit point height old new ps stream transformer
  have hitems : ∀ p ∈ ps.items, p = height ∨ ∃ srid, p = .geometry name (point srid) unit := by
    intro p hp
    rcases List.mem_cons.1 hp with rfl | hp
    · exact .inl rfl
    · rcases List.mem_pair.1 hp with rfl | rfl
      · exact .inr ⟨4326, rfl⟩
      · exact .inr ⟨25832, rfl⟩
  have hnamed : ∀ p ∈ ps.items, ∃ n, p = .named n := by
    intro p hp
    rcases hitems p hp with rfl | ⟨srid, rfl⟩
    · exact ⟨_, rfl⟩
    · exact ⟨_, rfl⟩
  have hsorted : ps.items.Pairwise fun p q => p.before q = .ok true := by
    have hbefore {p q : Parameter} (h : (p.before q).toOption = some true) :
        p.before q = .ok true := toOption_eq_some.1 h
    simp only [ps, List.pairwise_cons, List.forall_mem_cons, List.not_mem_nil, false_imp_iff,
      implies_true, and_true, List.Pairwise.nil]
    exact ⟨⟨hbefore (by decide +kernel), hbefore (by decide +kernel)⟩, hbefore (by decide +kernel)⟩
  have hpoint (srid : Int) : (Parameter.geometry name (point srid) unit).IsRegular fun _ => 1 := by
    rintro _ ⟨⟩
    refine ⟨?_, none, rfl⟩
    rintro _ ⟨⟩
    refine ⟨⟨some "Point", rfl, [.int 8, .int 53], rfl, ?_⟩, .inr ⟨_, rfl⟩⟩
    intro x hx
    rcases List.mem_pair.1 hx with rfl | rfl
    · exact ⟨_, rfl⟩
    · exact ⟨_, rfl⟩
  have hself : Geometry.same ⟨.text "Point", .list [.int 8, .int 53], .int 25832⟩
      ⟨.text "Point", .list [.int 8, .int 53], .int 25832⟩ = true := by decide +kernel
  have hcomparable : Comparable (Parameter.IsRegular fun _ => 1) Parameter.code
      (Option.map (Reprojection.relabelled 25832)) ps.items := by
    refine ⟨Parameter.ranked_regular rfl, ?_, ?_, hsorted⟩
    · intro p hp
      rcases hitems p hp with rfl | ⟨srid, rfl⟩
      · rintro _ ⟨⟩
        exact ⟨⟨1, [.int 3], .number rfl⟩, none, rfl⟩
      · exact hpoint srid
    · intro p hp hsampling
      rcases hitems p hp with rfl | ⟨srid, rfl⟩
      · exact absurd hsampling (by decide +kernel)
      · exact hpoint 25832
  have hprojects : Reprojection.Projects (Imitation.relabel.transformer none) 25832
      (Option.map (Reprojection.relabelled 25832)) ps.items := by
    refine Reprojection.relabel_projects fun hmem hsampling => ?_
    rcases hitems _ hmem with heq | ⟨srid, heq⟩
    · rw [heq] at hsampling
      exact absurd hsampling (by decide +kernel)
    · cases heq
      exact ⟨_, rfl, hself⟩
  have hmain (transformer : Option (Transformer (List Int))) (option : Datum) :=
    (modified_reprojects transformer (stream option) ps).2 option rfl
  have hnew : Crs.Names (.text " 25832 ") 25832 := .numeral (by decide +kernel)
  refine ⟨?_, ?_, ?_⟩
  · exact (((hmain none (.int 25832)).2 25832 (.number _) hnamed).1 rfl).mono fun a u h => h.1
  · obtain ⟨reason, hreason⟩ := (hmain transformer (.bool true)).1 fun n h => by cases h
    exact ⟨reason, hreason.mono fun a u h => h.1⟩
  · refine (((hmain transformer (.text " 25832 ")).2 25832 hnew hnamed).2 _ rfl
      hcomparable hprojects).mono ?_
    rintro a u ⟨after, b, ha, -, hafter⟩
    have hold : old ∈ ps.items := by simp [ps]
    have hsampling : old.isSamplingGeometry = true := by decide +kernel
    refine ⟨after, ha, ?_, hafter.image old hold hsampling, ?_⟩
    · rw [hafter.others]
      exact List.filter_cons_of_pos (by decide +kernel)
    · rw [hafter.original hold hsampling]
      exact congrArg Except.ok (by decide +kernel)

end Stream

end SensorSeries
