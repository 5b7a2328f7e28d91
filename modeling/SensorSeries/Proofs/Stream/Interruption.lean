import SensorSeries.Proofs.Stream.Reprojection

/-!
# Interrupted reprojections

A reprojection replaces one sampling geometry after the other, and where it fails it stops.
`Replaced` tells what has been done up to there, `Fails` what the failure itself leaves. Whatever the
transformer is, all parameters that are no sampling geometries stay as they are, and if it is the
transformer that fails, the failure itself changes nothing (`Interrupted`); so a set is only left
between two reference systems if an image of another geometry has been put into it before.
-/

namespace SensorSeries

namespace ParameterSet

variable {set after : ParameterSet} {p q : Parameter}

theorem others_of_takeOut (h : Reprojection.takeOut set p = .ok after)
    (hp : p.isSamplingGeometry = true) :
    after.items.filter (!·.isSamplingGeometry) = set.items.filter (!·.isSamplingGeometry) := by
  obtain ⟨kept, hremove, hkept⟩ := bind_eq_ok.1 h
  obtain rfl := Except.ok.inj hkept
  obtain ⟨front, q, rest, hitems, hq, rfl⟩ := exists_of_removeFirst hremove
  have hsampling := Parameter.isSamplingGeometry_of_sameOrIdentical hq hp
  simp [hitems, hsampling]

/-- What is not taken for the parameter stays. -/
theorem mem_of_takeOut (h : Reprojection.takeOut set p = .ok after) (hq : q ∈ set.items)
    (hne : q.sameOrIdentical p = .ok false) : q ∈ after.items := by
  obtain ⟨kept, hremove, hkept⟩ := bind_eq_ok.1 h
  obtain rfl := Except.ok.inj hkept
  obtain ⟨front, x, rest, hitems, hx, rfl⟩ := exists_of_removeFirst hremove
  rw [hitems, List.mem_append, List.mem_cons] at hq
  rcases hq with hq | rfl | hq
  · exact List.mem_append_left _ hq
  · cases hne.symm.trans hx
  · exact List.mem_append_right _ hq

theorem mem_of_add (h : set.add p = .ok after) (hq : q ∈ set.items) : q ∈ after.items := by
  obtain ⟨kept, hput, hkept⟩ := bind_eq_ok.1 h
  obtain rfl := Except.ok.inj hkept
  rcases eq_or_exists_of_putBetween hput with rfl | ⟨front, rest, hitems, rfl⟩
  · exact hq
  · simp only [hitems, List.mem_append, List.mem_cons] at hq ⊢
    tauto

theorem others_of_add (h : set.add p = .ok after) (hp : p.isSamplingGeometry = true) :
    after.items.filter (!·.isSamplingGeometry) = set.items.filter (!·.isSamplingGeometry) := by
  obtain ⟨kept, hput, hkept⟩ := bind_eq_ok.1 h
  obtain rfl := Except.ok.inj hkept
  rcases eq_or_exists_of_putBetween hput with rfl | ⟨front, rest, hitems, rfl⟩
  · rfl
  · simp [hitems, hp]

end ParameterSet

namespace Reprojection

open SensorSeries.Action SensorSeries.ParameterSet

variable {τ β : Type} [LinearOrder β] {P : Parameter → Prop} {rank : Parameter → β}
  {set : ParameterSet} {ranks : Finset β} {p : Parameter} {f : Option Geometry → Option Geometry}
  {done todo front : List Parameter} {t : Transformer τ} {target : Int} {x y z : τ × ParameterSet}
  {e : Failure}

/-! ## Up to the failure -/

/-- The sampling geometries of a list are replaced one after the other, each by the image that the
transformer answers for it. -/
inductive Replaced (t : Transformer τ) (target : Int) :
    List Parameter → τ × ParameterSet → τ × ParameterSet → Prop
  | nothing (x : τ × ParameterSet) : Replaced t target [] x x
  | skip {p : Parameter} {todo : List Parameter} {x y : τ × ParameterSet}
      (hp : p.isSamplingGeometry = false) (h : Replaced t target todo x y) :
      Replaced t target (p :: todo) x y
  | replace {r : Option Reference} {g i : Option Geometry} {u : UnitOfMeasure}
      {todo : List Parameter} {b c : τ} {set rest after : ParameterSet} {y : τ × ParameterSet}
      (hp : (Parameter.geometry r g u).isSamplingGeometry = true)
      (himage : (t.transform g target).EndsIn b fun a c' => a = .ok i ∧ c' = c)
      (htake : takeOut set (.geometry r g u) = .ok rest)
      (hadd : rest.add (.geometry r i u) = .ok after)
      (h : Replaced t target todo (c, after) y) :
      Replaced t target (.geometry r g u :: todo) (b, set) y

namespace Replaced

/-- What is no sampling geometry is not touched. -/
theorem others (h : Replaced t target todo x y) :
    y.2.items.filter (!·.isSamplingGeometry) = x.2.items.filter (!·.isSamplingGeometry) := by
  induction h with
  | nothing x => rfl
  | skip hp h ih => exact ih
  | replace hp himage htake hadd h ih =>
    have hi (i : Option Geometry) := Parameter.isSamplingGeometry_mapGeometry (fun _ => i) hp
    rw [ih, others_of_add hadd (hi _), others_of_takeOut htake hp]

/-- Where there is no sampling geometry, nothing happens. -/
theorem eq_of_forall (h : Replaced t target todo x y)
    (htodo : ∀ p ∈ todo, p.isSamplingGeometry = false) : y = x := by
  induction h with
  | nothing x => rfl
  | skip hp h ih => exact ih (List.forall_mem_cons.1 htodo).2
  | replace hp himage htake hadd h ih =>
    rw [(List.forall_mem_cons.1 htodo).1] at hp
    cases hp

/-- A parameter is kept that is different from all sampling geometries of the list. -/
theorem mem (h : Replaced t target todo x y) (hp : p ∈ x.2.items)
    (hne : ∀ q ∈ todo, q.isSamplingGeometry = true → p.sameOrIdentical q = .ok false) :
    p ∈ y.2.items := by
  induction h with
  | nothing x => exact hp
  | skip hq h ih => exact ih hp (List.forall_mem_cons.1 hne).2
  | replace hq himage htake hadd h ih =>
    obtain ⟨hfirst, hrest⟩ := List.forall_mem_cons.1 hne
    exact ih (mem_of_add hadd (mem_of_takeOut htake hp (hfirst hq))) hrest

end Replaced

/-! ## The failure -/

/-- How a parameter stops a reprojection, and what is left then. -/
inductive Fails (t : Transformer τ) (target : Int) :
    Parameter → τ × ParameterSet → Failure → τ × ParameterSet → Prop
  /-- A datum that is no named value cannot be asked whether it is a sampling geometry. -/
  | unnamed (d : Datum) (x : τ × ParameterSet) : Fails t target (.other d) x .noAttribute x
  | transforming {r : Option Reference} {g : Option Geometry} {u : UnitOfMeasure} {b c : τ}
      {set : ParameterSet} {e : Failure} (hp : (Parameter.geometry r g u).isSamplingGeometry = true)
      (h : (t.transform g target).EndsIn b fun a c' => a = .error e ∧ c' = c) :
      Fails t target (.geometry r g u) (b, set) e (c, set)
  | takingOut {r : Option Reference} {g i : Option Geometry} {u : UnitOfMeasure} {b c : τ}
      {set : ParameterSet} {e : Failure} (hp : (Parameter.geometry r g u).isSamplingGeometry = true)
      (himage : (t.transform g target).EndsIn b fun a c' => a = .ok i ∧ c' = c)
      (h : takeOut set (.geometry r g u) = .error e) :
      Fails t target (.geometry r g u) (b, set) e (c, set)
  /-- An image that cannot be put in its place is lost, and the geometry with it. -/
  | puttingIn {r : Option Reference} {g i : Option Geometry} {u : UnitOfMeasure} {b c : τ}
      {set rest : ParameterSet} {e : Failure}
      (hp : (Parameter.geometry r g u).isSamplingGeometry = true)
      (himage : (t.transform g target).EndsIn b fun a c' => a = .ok i ∧ c' = c)
      (htake : takeOut set (.geometry r g u) = .ok rest)
      (h : rest.add (.geometry r i u) = .error e) :
      Fails t target (.geometry r g u) (b, set) e (c, rest)

/-- The transformer fails on the geometry of a parameter. -/
def Refuses (t : Transformer τ) (target : Int) (p : Parameter) (b : τ) (e : Failure) : Prop :=
  ∃ r g u, p = .geometry r g u ∧ (t.transform g target).EndsIn b fun a _ => a = .error e

theorem Fails.others (h : Fails t target p x e y) :
    y.2.items.filter (!·.isSamplingGeometry) = x.2.items.filter (!·.isSamplingGeometry) := by
  cases h with
  | unnamed d x => rfl
  | transforming hp h => rfl
  | takingOut hp himage h => rfl
  | puttingIn hp himage htake h => exact others_of_takeOut htake hp

/-- A transformer that fails does not fail after it has answered, so nothing is replaced. -/
theorem Fails.eq_of_refuses (h : Fails t target p x e y) (hrefuses : Refuses t target p x.1 e) :
    y.2 = x.2 := by
  cases h with
  | unnamed d x => rfl
  | transforming hp h => rfl
  | takingOut hp himage h => rfl
  | puttingIn hp himage htake h =>
    obtain ⟨r, g, u, heq, hfails⟩ := hrefuses
    cases heq
    exact absurd (himage.1.symm.trans hfails) nofun

/-! ## One after the other -/

/-- A replacement fails before the old parameter is taken out or before the new one is put in. -/
theorem replace_ends (p q : Parameter) (b : τ) (set : ParameterSet) :
    (replace p q).EndsIn (b, set) fun a x =>
      (∃ e, takeOut set p = .error e ∧ a = .error e ∧ x = (b, set)) ∨
      ∃ rest, takeOut set p = .ok rest ∧
        ((∃ e, rest.add q = .error e ∧ a = .error e ∧ x = (b, rest)) ∨
          ∃ after, rest.add q = .ok after ∧ a = .ok () ∧ x = (b, after)) := by
  unfold replace
  rw [endsIn_bind, endsIn_get, continues_ok, endsIn_bind, endsIn_lift]
  cases htake : takeOut set p with
  | error e => exact .inl ⟨e, rfl, rfl, rfl⟩
  | ok rest =>
    rw [continues_ok, endsIn_bind, endsIn_modify, continues_ok, endsIn_bind, endsIn_lift]
    cases hadd : rest.add q with
    | error e => exact .inr ⟨rest, rfl, .inl ⟨e, hadd, rfl, rfl⟩⟩
    | ok after => exact .inr ⟨rest, rfl, .inr ⟨after, hadd, rfl, rfl⟩⟩

/-- Without a transformer the set stays as it is, also if one of its items stops the search. -/
theorem replaceAll_none_frame (todo : List Parameter) (x : τ × ParameterSet) :
    (replaceAll none target todo).EndsIn x fun _ y => y = x := by
  induction todo with
  | nil => rfl
  | cons p todo ih =>
    rw [replaceAll, endsIn_bind, endsIn_lift]
    cases p with
    | other d => rfl
    | named n =>
      rw [Parameter.asNamed, continues_ok]
      split
      · rfl
      · exact ih

/-- A reprojection replaces the sampling geometries one after the other, all of them or those before
the one that stops it. -/
theorem replaceAll_ends (todo : List Parameter) (x : τ × ParameterSet) :
    (replaceAll (some t) target todo).EndsIn x fun a y => match a with
      | .ok _ => Replaced t target todo x y
      | .error e => ∃ front p rest m, todo = front ++ p :: rest ∧ Replaced t target front x m ∧
          Fails t target p m e y := by
  induction todo generalizing x with
  | nil => exact .nothing x
  | cons p todo ih =>
    rw [replaceAll, endsIn_bind, endsIn_lift]
    cases p with
    | other d => exact ⟨[], .other d, todo, x, rfl, .nothing x, .unnamed d x⟩
    | named n =>
      rw [Parameter.asNamed, continues_ok]
      split
      · next g unit hsampling hvalue =>
        obtain ⟨r, _⟩ := n
        obtain rfl := hvalue
        obtain ⟨b, set⟩ := x
        have hp : (Parameter.geometry r g unit).isSamplingGeometry = true := hsampling
        rw [endsIn_bind, endsIn_note, continues_ok, endsIn_bind, endsIn_onFirst]
        -- All that is known of the transformer is that it ends in what it ends in.
        have hself : (t.transform g target).EndsIn b fun a c =>
            (t.transform g target).EndsIn b fun a' c' => a' = a ∧ c' = c := ⟨rfl, rfl⟩
        refine hself.mono fun a c himage => ?_
        cases a with
        | error e =>
          exact ⟨[], .geometry r g unit, todo, (b, set), rfl, .nothing _, .transforming hp himage⟩
        | ok i =>
          rw [continues_ok, endsIn_bind]
          refine (replace_ends _ _ c set).mono fun a m hm => ?_
          rcases hm with ⟨e, htake, rfl, rfl⟩ | ⟨kept, htake, ⟨e, hadd, rfl, rfl⟩ | hm⟩
          · exact ⟨[], .geometry r g unit, todo, _, rfl, .nothing _, .takingOut hp himage htake⟩
          · exact ⟨[], .geometry r g unit, todo, _, rfl, .nothing _,
              .puttingIn hp himage htake hadd⟩
          · -- This one went through, so it comes before the one that stops the rest, if any does.
            obtain ⟨after, hadd, rfl, rfl⟩ := hm
            rw [continues_ok]
            refine (ih (c, after)).mono fun a y hy => ?_
            cases a with
            | ok _ => exact .replace hp himage htake hadd hy
            | error e =>
              obtain ⟨front, p, rest, m, rfl, hfront, hfails⟩ := hy
              exact ⟨.geometry r g unit :: front, p, rest, m, rfl,
                .replace hp himage htake hadd hfront, hfails⟩
      · next hother =>
        have hp : (Parameter.named n).isSamplingGeometry = false := by
          rw [Bool.eq_false_iff]
          intro hsampling
          obtain ⟨r, g, u, heq⟩ := Parameter.exists_geometry hsampling
          cases heq
          exact hother g u hsampling rfl
        refine (ih x).mono fun a y hy => ?_
        cases a with
        | ok _ => exact .skip hp hy
        | error e =>
          obtain ⟨front, q, rest, m, rfl, hfront, hfails⟩ := hy
          exact ⟨.named n :: front, q, rest, m, rfl, .skip hp hfront, hfails⟩

/-! ## Parameters that can be compared -/

/-- What a transformer makes of the sampling geometries of a list where it does not fail. -/
structure Follows (t : Transformer τ) (target : Int) (f : Option Geometry → Option Geometry)
    (items : List Parameter) : Prop extends IsProjection f items where
  answers : ∀ {r g u}, .geometry r g u ∈ items →
    (Parameter.geometry r g u).isSamplingGeometry = true →
    ∀ b, (t.transform g target).EndsIn b fun a _ => ∀ i, a = .ok i → i = f g

/-- Whatever has been replaced, the set is one that is partly reprojected. -/
theorem Replaced.partly (h : Replaced t target front x y)
    (hcomparable : Comparable P rank f (done ++ (front ++ todo)))
    (hfollows : Follows t target f (done ++ (front ++ todo)))
    (hx : Partly P rank f done (front ++ todo) x.2 ranks) :
    ∃ ranks, Partly P rank f (done ++ front) todo y.2 ranks := by
  induction h generalizing done ranks with
  | nothing x =>
    rw [List.append_nil]
    exact ⟨ranks, hx⟩
  | @skip p front x y hp h ih =>
    rw [List.cons_append, List.append_cons] at hcomparable hfollows
    rw [List.append_cons]
    exact ih hcomparable hfollows (hx.skip hp)
  | @replace r g i u front b c set rest after y hp himage htake hadd h ih =>
    rw [List.cons_append] at hcomparable hfollows hx
    obtain rfl : i = f g := hfollows.answers (by simp) hp b i himage.1
    obtain ⟨rest', after', ranks', htake', hadd', hafter⟩ :=
      hx.replace hcomparable hfollows.toIsProjection hp
    obtain rfl := Except.ok.inj (htake.symm.trans htake')
    obtain rfl := Except.ok.inj (hadd.symm.trans hadd')
    rw [List.append_cons] at hcomparable hfollows ⊢
    exact ih hcomparable hfollows hafter

/-- Where parameters can be compared, nothing but the transformer can fail. -/
theorem Fails.refuses (h : Fails t target p x e y) (hnamed : ∃ n, p = .named n)
    (hcomparable : Comparable P rank f (done ++ p :: todo))
    (hfollows : Follows t target f (done ++ p :: todo))
    (hx : Partly P rank f done (p :: todo) x.2 ranks) : Refuses t target p x.1 e := by
  cases h with
  | unnamed d x =>
    obtain ⟨n, hn⟩ := hnamed
    cases hn
  | transforming hp h => exact ⟨_, _, _, rfl, h.1⟩
  | takingOut hp himage h =>
    obtain ⟨rest, after, ranks, htake, -, -⟩ := hx.replace hcomparable hfollows.toIsProjection hp
    cases h.symm.trans htake
  | puttingIn hp himage htake h =>
    obtain rfl := hfollows.answers (by simp) hp _ _ himage.1
    obtain ⟨rest, after, ranks, htake', hadd, -⟩ :=
      hx.replace hcomparable hfollows.toIsProjection hp
    obtain rfl := Except.ok.inj (htake.symm.trans htake')
    cases h.symm.trans hadd

/-- Relabelling follows the map also if one of the calls fails. -/
theorem relabel_follows (failAt : Option Nat) {items : List Parameter}
    (hpresent : ∀ {r g u}, .geometry r g u ∈ items →
      (Parameter.geometry r g u).isSamplingGeometry = true →
      ∃ h, g = some h ∧ (relabelled target h).same (relabelled target h) = true) :
    Follows (Imitation.relabel.transformer failAt) target (Option.map (relabelled target))
      items where
  toIsProjection := relabelled_isProjection hpresent
  answers := by
    intro r g u hmem hsampling b
    obtain ⟨h, rfl, -⟩ := hpresent hmem hsampling
    unfold Imitation.transformer
    dsimp only
    rw [endsIn_bind, endsIn_modify, continues_ok, endsIn_bind, endsIn_get, continues_ok]
    split
    · exact nofun
    · intro i hi
      exact (Except.ok.inj hi).symm

/-! ## What is left -/

/-- What a reprojection that is stopped by the parameter `p` has made of a set; `m` is how far it
had come before. -/
structure Interrupted (t : Transformer τ) (target : Int) (e : Failure) (x y : τ × ParameterSet)
    (front : List Parameter) (p : Parameter) (rest : List Parameter) (m : τ × ParameterSet) :
    Prop where
  split : x.2.items = front ++ p :: rest
  replaced : Replaced t target front x m
  fails : Fails t target p m e y
  /-- What is no sampling geometry is as it was, in its order. -/
  others : y.2.items.filter (!·.isSamplingGeometry) = x.2.items.filter (!·.isSamplingGeometry)
  /-- A transformer that fails leaves the set as it is. -/
  untouched : Refuses t target p m.1 e → y.2 = m.2
  first : Refuses t target p m.1 e → (∀ q ∈ front, q.isSamplingGeometry = false) → y.2 = x.2
  kept : Refuses t target p m.1 e → ∀ q ∈ x.2.items,
    (∀ d ∈ front, d.isSamplingGeometry = true → q.sameOrIdentical d = .ok false) → q ∈ y.2.items
  comparable : ∀ {β : Type} [LinearOrder β] {P : Parameter → Prop} {rank : Parameter → β}
    {f : Option Geometry → Option Geometry}, Comparable P rank f x.2.items →
    Follows t target f x.2.items → (∀ q ∈ x.2.items, ∃ n, q = .named n) →
    Refuses t target p m.1 e ∧ ∃ ranks, Partly P rank f front (p :: rest) y.2 ranks

theorem interrupted {rest : List Parameter} {m : τ × ParameterSet}
    (hsplit : x.2.items = front ++ p :: rest) (hreplaced : Replaced t target front x m)
    (hfails : Fails t target p m e y) : Interrupted t target e x y front p rest m where
  split := hsplit
  replaced := hreplaced
  fails := hfails
  others := hfails.others.trans hreplaced.others
  untouched := hfails.eq_of_refuses
  first := by
    intro hrefuses hfront
    rw [hfails.eq_of_refuses hrefuses, hreplaced.eq_of_forall hfront]
  kept := by
    intro hrefuses q hq hne
    rw [hfails.eq_of_refuses hrefuses]
    exact hreplaced.mem hq hne
  comparable := by
    intro β _ P rank f hcomparable hfollows hnamed
    have hstart := Partly.start (f := f)
      (Holds.of_sorted hcomparable.ranked hcomparable.within hcomparable.sorted)
    rw [hsplit] at hcomparable hfollows hnamed hstart
    obtain ⟨ranks, hm⟩ : ∃ ranks, Partly P rank f ([] ++ front) (p :: rest) m.2 ranks :=
      hreplaced.partly hcomparable hfollows hstart
    have hrefuses := hfails.refuses (hnamed p (by simp)) hcomparable hfollows hm
    refine ⟨hrefuses, ranks, ?_⟩
    rw [hfails.eq_of_refuses hrefuses]
    exact hm

end Reprojection

namespace Stream

open SensorSeries.Action

variable {σ : Type}

/-- **A reprojection that fails stops where it is.** If the option names no reference system, or
there is no transformer, the parameters stay as they are. Otherwise one of them stops it: the
sampling geometries before that one have been replaced by their images one after the other, and
parameters that are no sampling geometries are as they were. A transformer that fails does not do
more than this: what is different from the geometries before is still there, and if there are none,
nothing has changed at all. Among parameters that can be compared with one another and with the
images only the transformer can fail. -/
theorem modified_interrupted (transformer : Option (Transformer σ)) (s : Stream σ)
    (ps : ParameterSet) :
    (modified transformer ps).EndsIn s fun a u => ∀ e after, a = .ok (.error e, after) →
      ∃ option b, Datum.field? s.options Vocabulary.crs = some option ∧
        u = { s with backing := b } ∧
        ((((∀ n, ¬ Crs.Names option n) ∨ transformer = none) ∧ after = ps ∧ b = s.backing) ∨
          ∃ target t, Crs.Names option target ∧ transformer = some t ∧ ∃ front p rest m,
            Reprojection.Interrupted t target e (s.backing, ps) (b, after) front p rest m) := by
  rw [endsIn_modified, Reprojection.apply]
  cases hoption : Datum.field? s.options Vocabulary.crs with
  | none =>
    rintro e after ⟨⟩
  | some option =>
    dsimp only
    rw [endsIn_bind, endsIn_lift]
    by_cases hnames : ∃ target, Crs.Names option target
    · obtain ⟨target, hnames⟩ := hnames
      rw [Crs.read_of_names hnames, continues_ok, endsIn_bind, endsIn_get, continues_ok]
      cases transformer with
      | none =>
        refine (Reprojection.replaceAll_none_frame ps.items (s.backing, ps)).mono fun a x hx => ?_
        rintro e after ⟨⟩
        obtain rfl := hx
        exact ⟨option, s.backing, rfl, rfl, .inl ⟨.inr rfl, rfl, rfl⟩⟩
      | some t =>
        refine (Reprojection.replaceAll_ends ps.items (s.backing, ps)).mono fun a x hx => ?_
        rintro e after ⟨⟩
        obtain ⟨front, p, rest, m, hsplit, hreplaced, hfails⟩ := hx
        exact ⟨option, x.1, rfl, rfl, .inr ⟨target, t, hnames, rfl, front, p, rest, m,
          Reprojection.interrupted hsplit hreplaced hfails⟩⟩
    · obtain ⟨reason, hread⟩ := Crs.read_of_nameless (not_exists.1 hnames)
      rw [hread]
      rintro e after ⟨⟩
      exact ⟨option, s.backing, rfl, rfl, .inl ⟨.inl (not_exists.1 hnames), rfl, rfl⟩⟩

/-- Two points of which the first one is relabelled: the second one is where the transformer fails,
and nothing is in the set but old geometries and their images. -/
theorem modified_interrupted_relabelled :
    let name := some (Reference.ofText Vocabulary.samplingGeometry)
    let point (x srid : Int) := Parameter.geometry name
      (some ⟨.text "Point", .list [.int x, .int 52], .int srid⟩) .missing
    let ps : ParameterSet := ⟨[point 7 4326, point 8 4326]⟩
    let stream : Stream (List Int) :=
      { backing := [], template := {}, options := [(Vocabulary.crs, .int 25832)] }
    (modified (some (Imitation.relabel.transformer (some 2))) ps).EndsIn stream fun a _ =>
      ∀ e after, a = .ok (.error e, after) → point 8 4326 ∈ after.items ∧
        ∀ q ∈ after.items, q.isSamplingGeometry = true →
          q ∈ ps.items ∨ q = point 7 25832 ∨ q = point 8 25832 := by
  intro name point ps stream
  have hitems : ∀ p ∈ ps.items, ∃ x, p = point x 4326 ∧ (x = 7 ∨ x = 8) := by
    intro p hp
    rcases List.mem_pair.1 hp with rfl | rfl
    · exact ⟨7, rfl, .inl rfl⟩
    · exact ⟨8, rfl, .inr rfl⟩
  have hregular (x srid : Int) : (point x srid).IsRegular fun _ => 1 := by
    rintro _ ⟨⟩
    refine ⟨?_, none, rfl⟩
    rintro _ ⟨⟩
    refine ⟨⟨some "Point", rfl, [.int x, .int 52], rfl, ?_⟩, .inr ⟨_, rfl⟩⟩
    intro y hy
    rcases List.mem_pair.1 hy with rfl | rfl
    · exact ⟨_, rfl⟩
    · exact ⟨_, rfl⟩
  have hcomparable : ParameterSet.Comparable (Parameter.IsRegular fun _ => 1) Parameter.code
      (Option.map (Reprojection.relabelled 25832)) ps.items := by
    refine ⟨Parameter.ranked_regular rfl, ?_, ?_, ?_⟩
    · intro p hp
      obtain ⟨x, rfl, -⟩ := hitems p hp
      exact hregular x 4326
    · intro p hp hsampling
      obtain ⟨x, rfl, -⟩ := hitems p hp
      exact hregular x 25832
    · refine List.pairwise_pair.2 (toOption_eq_some.1 ?_)
      decide +kernel
  have hfollows : Reprojection.Follows (Imitation.relabel.transformer (some 2)) 25832
      (Option.map (Reprojection.relabelled 25832)) ps.items := by
    refine Reprojection.relabel_follows (some 2) fun {r g u} hmem hsampling => ?_
    obtain ⟨x, heq, hx⟩ := hitems _ hmem
    cases heq
    refine ⟨_, rfl, ?_⟩
    rcases hx with rfl | rfl
    · decide +kernel
    · decide +kernel
  have hnamed : ∀ p ∈ ps.items, ∃ n, p = .named n := by
    intro p hp
    obtain ⟨x, rfl, -⟩ := hitems p hp
    exact ⟨_, rfl⟩
  refine (modified_interrupted _ stream ps).mono fun a u h e after ha => ?_
  obtain ⟨option, b, ⟨⟩, -, hend⟩ := h e after ha
  rcases hend with ⟨hnone | hnone, -⟩ | ⟨target, t, hnames, ⟨⟩, front, p, rest, m, hstopped⟩
  · exact absurd (.number _) (hnone 25832)
  · cases hnone
  · cases hnames
    obtain ⟨-, ranks, hpartly⟩ := hstopped.comparable hcomparable hfollows hnamed
    have hlast : (p :: rest).getLast? = some (point 8 4326) := by
      have hsplit := congrArg List.getLast? hstopped.split
      rw [List.getLast?_append_of_ne_nil _ (by simp)] at hsplit
      exact hsplit.symm
    refine ⟨hpartly.waiting _ (List.mem_of_getLast? hlast), fun q hq hsampling => ?_⟩
    rcases hpartly.origin q hq hsampling with hq | ⟨d, hd, -, rfl⟩
    · exact .inl (hstopped.split ▸ List.mem_append_right front hq)
    · obtain ⟨x, rfl, hx⟩ := hitems d (hstopped.split ▸ List.mem_append_left _ hd)
      rcases hx with rfl | rfl
      · exact .inr (.inl rfl)
      · exact .inr (.inr rfl)

/-- Whether it is the connection that failed. -/
def isDisconnected : Except Failure Unit → Bool
  | .error (.outage .connection) => true
  | _ => false

/-- The transformer fails on the second one of two sampling geometries, when the first one is
already in the new reference system: the set is left with one geometry in each. -/
theorem modified_halfway :
    let name := some (Reference.ofText Vocabulary.samplingGeometry)
    let point (x srid : Int) := Parameter.geometry name
      (some ⟨.text "Point", .list [.int x, .int 52], .int srid⟩) .missing
    let ps : ParameterSet := ⟨[point 7 4326, point 8 4326]⟩
    let stream : Stream (List Int) :=
      { backing := [], template := {}, options := [(Vocabulary.crs, .int 25832)] }
    (modified (some (Imitation.relabel.transformer (some 2))) ps).EndsIn stream fun a _ =>
      ∃ after, a = .ok (.error (.outage .connection), after) ∧ after ≠ ps ∧
        after.contains (point 7 25832) = .ok true ∧ after.contains (point 8 4326) = .ok true := by
  intro name point ps stream
  have hcontains {set : ParameterSet} {p : Parameter} {b : Bool}
      (h : ((set.contains p).toOption == some b) = true) : set.contains p = .ok b :=
    toOption_eq_some.1 (beq_iff_eq.1 h)
  have hend : (modified (some (Imitation.relabel.transformer (some 2))) ps).EndsIn stream fun a _ =>
      (a.toOption.any fun r => isDisconnected r.1 &&
        ((r.2.contains (point 7 25832)).toOption == some true &&
          (r.2.contains (point 8 4326)).toOption == some true)) = true := by
    unfold EndsIn
    decide +kernel
  have hbefore : ps.contains (point 7 25832) = .ok false := hcontains (by decide +kernel)
  refine hend.mono fun a _ h => ?_
  obtain ⟨⟨answer, after⟩, ha, h⟩ := Option.any_eq_true _ _ |>.1 h
  simp only [Bool.and_eq_true] at h
  obtain ⟨hanswer, hnew, hold⟩ := h
  have hfailure : answer = .error (.outage .connection) := by
    unfold isDisconnected at hanswer
    split at hanswer
    · rfl
    · cases hanswer
  refine ⟨after, ?_, ?_, hcontains hnew, hcontains hold⟩
  · rw [toOption_eq_some.1 ha, hfailure]
  · intro heq
    rw [heq, hbefore] at hnew
    cases hnew

end Stream

end SensorSeries
