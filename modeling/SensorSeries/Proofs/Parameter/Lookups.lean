import Mathlib.Data.List.Forall2
import Mathlib.Data.List.Sort
import SensorSeries.Proofs.Parameter.Geometries
import SensorSeries.Proofs.Parameter.Sets

/-!
# Look-ups in parameter sets

A look-up answers with the first item that passes a test, and in a sorted set that is the least one
(`LooksUp`). The order in which a set was filled does not show: sets of the same ranks hold equal
parameters place by place (`Holds.forall₂_same`), equal parameters pass the same tests, and so every
look-up gives equal answers (`Agree`).
-/

namespace SensorSeries

/-! ## Values with equal keys -/

namespace Value

open SensorSeries.Datum

/-- Whether two values, present or missing, have keys, and the keys are equal. -/
def SameKey (v w : Option Value) : Prop :=
  ∃ k l, optionKey v = .ok k ∧ optionKey w = .ok l ∧ (k == l) = true

variable {v w : Option Value} {k l : Datum}

theorem key_begins (hk : optionKey v = .ok k) :
    ∃ rest, k.canon = .tuple (.text ((v.map typeName).getD "") :: rest) := by
  cases v with
  | none =>
    cases hk
    exact ⟨[], rfl⟩
  | some v =>
    cases v with
    | other d => cases hk
    | _ =>
      cases hk
      exact ⟨_, canon_keyOf ..⟩

/-- The key tells the kind of a value. -/
theorem SameKey.typeName_eq (h : SameKey v w) :
    (v.map typeName).getD "" = (w.map typeName).getD "" := by
  obtain ⟨k, l, hk, hl, heq⟩ := h
  obtain ⟨xs, hxs⟩ := key_begins hk
  obtain ⟨ys, hys⟩ := key_begins hl
  change beqCanon k.canon l.canon = true at heq
  rw [hxs, hys, beqCanon_tuple, beqAll, Bool.and_eq_true, beqCanon_text, beq_iff_eq] at heq
  exact heq.1

theorem kind_iff (hk : optionKey v = .ok k) :
    v.any isQuantity = ((v.map typeName).getD "" == "QuantityValue") ∧
      v.any isGeometry = ((v.map typeName).getD "" == "GeometryValue") := by
  cases v with
  | none => exact ⟨rfl, rfl⟩
  | some v =>
    cases v with
    | component c =>
      obtain ⟨kind, _⟩ := c
      cases kind <;> exact ⟨rfl, rfl⟩
    | geometry g u => exact ⟨rfl, rfl⟩
    | nil u => exact ⟨rfl, rfl⟩
    | other d => cases hk

theorem SameKey.kind_eq (h : SameKey v w) :
    v.any isQuantity = w.any isQuantity ∧ v.any isGeometry = w.any isGeometry := by
  obtain ⟨k, l, hk, hl, -⟩ := id h
  rw [(kind_iff hk).1, (kind_iff hk).2, (kind_iff hl).1, (kind_iff hl).2, h.typeName_eq]
  exact ⟨rfl, rfl⟩

end Value

/-! ## Tests that equal named values pass alike -/

namespace NamedValue

open SensorSeries.Datum

/-- Whether two named values are equal. -/
def Same (a b : NamedValue) : Prop := (Parameter.named a).same (.named b) = .ok true

variable {a b : NamedValue} {name : String}

theorem same_iff_keys : Same a b ↔ SameName a.name b.name ∧ Value.SameKey a.value b.value := by
  unfold Same Value.SameKey
  rw [Parameter.same]
  cases hk : Value.optionKey a.value with
  | error e =>
    rw [key, hk]
    simp
  | ok k =>
    cases hl : Value.optionKey b.value with
    | error e =>
      rw [key_eq hk, key, hl]
      simp
    | ok l =>
      rw [key_eq hk, key_eq hl, ok_bind, ok_bind, pure_eq_ok, Except.ok.injEq]
      change beqCanon (Datum.canon (.tuple [_, _])) (Datum.canon (.tuple [_, _])) = true ↔ _
      rw [canon_pair, canon_pair, beqCanon_tuple, beqAll, beqAll, beqAll, Bool.and_true,
        Bool.and_eq_true, beq_nameKey_iff]
      simp only [Except.ok.injEq, exists_and_left, exists_eq_left']
      rfl

/-- Whether a named value goes by an address; nothing goes by an empty one. -/
def GoesBy (name : String) (n : NamedValue) : Prop :=
  name ≠ "" ∧ n.name.bind (·.href) = some name

instance (name : String) (n : NamedValue) : Decidable (n.GoesBy name) :=
  inferInstanceAs (Decidable (_ ∧ _))

theorem hasName_iff : a.hasName name = true ↔ a.GoesBy name := by
  unfold hasName isSetName GoesBy
  cases a.name with
  | none => simp
  | some r =>
    cases hhref : r.href with
    | none => simp [Reference.isSetHref, isFilled, hhref]
    | some href =>
      simp only [Option.any_some, Reference.isSetHref, isFilled, hhref, Option.bind_some,
        Bool.and_eq_true, bne_iff_ne, beq_iff_eq, Option.some.injEq]
      constructor
      · rintro ⟨hfilled, rfl⟩
        exact ⟨hfilled, rfl⟩
      · rintro ⟨hfilled, rfl⟩
        exact ⟨hfilled, rfl⟩

theorem GoesBy.of_sameName (h : b.GoesBy name) (hname : SameName a.name b.name) : a.GoesBy name :=
  ⟨h.1, Parameter.href_of_sameName h.1 hname h.2⟩

theorem sameName_symm {r s : Option Reference} (h : SameName r s) : SameName s r := by
  cases r with
  | none =>
    cases s with
    | none => trivial
    | some s => exact h
  | some r =>
    cases s with
    | none => exact h
    | some s => exact ⟨h.1.symm, h.2.symm⟩

theorem Same.hasName_eq (h : Same a b) (name : String) : a.hasName name = b.hasName name := by
  have hname := (same_iff_keys.1 h).1
  rw [Bool.eq_iff_iff, hasName_iff, hasName_iff]
  exact ⟨fun ha => ha.of_sameName (sameName_symm hname), fun hb => hb.of_sameName hname⟩

end NamedValue

/-! ## Roles -/

/-- What a parameter can be looked up as. -/
inductive ParameterRole where
  | samplingGeometry
  | height
  | depth
  deriving DecidableEq, Repr

namespace ParameterRole

def name : ParameterRole → String
  | .samplingGeometry => Vocabulary.samplingGeometry
  | .height => Vocabulary.height
  | .depth => Vocabulary.depth

/-- The variant of value that a role demands. -/
def Takes : ParameterRole → Value → Prop
  | .samplingGeometry, v => ∃ g u, v = .geometry g u
  | _, v => ∃ c, v = .component c ∧ c.kind = .quantity

def IsMetBy (role : ParameterRole) (n : NamedValue) : Prop :=
  n.GoesBy role.name ∧ ∃ v ∈ n.value, role.Takes v

def test : ParameterRole → NamedValue → Bool
  | .samplingGeometry => (·.isSamplingGeometry)
  | .height => (·.isHeight)
  | .depth => (·.isDepth)

def find (set : ParameterSet) : ParameterRole → Except Failure (Option NamedValue)
  | .samplingGeometry => set.samplingGeometry
  | .height => set.height
  | .depth => set.depth

theorem isGeometry_iff {v : Value} : v.isGeometry = true ↔ ∃ g u, v = .geometry g u := by
  cases v <;> simp [Value.isGeometry]

theorem isQuantity_iff {v : Value} :
    v.isQuantity = true ↔ ∃ c, v = .component c ∧ c.kind = .quantity := by
  cases v <;> simp [Value.isQuantity]

theorem test_iff (role : ParameterRole) (n : NamedValue) :
    role.test n = true ↔ role.IsMetBy n := by
  unfold IsMetBy
  rw [← NamedValue.hasName_iff]
  cases role with
  | samplingGeometry =>
    change (n.hasName _ && n.value.any (·.isGeometry)) = true ↔ _
    simp only [Bool.and_eq_true, Option.any_eq_true, isGeometry_iff]
    rfl
  | height =>
    change (n.hasName _ && n.value.any (·.isQuantity)) = true ↔ _
    simp only [Bool.and_eq_true, Option.any_eq_true, isQuantity_iff]
    rfl
  | depth =>
    change (n.hasName _ && n.value.any (·.isQuantity)) = true ↔ _
    simp only [Bool.and_eq_true, Option.any_eq_true, isQuantity_iff]
    rfl

/-- Equal named values meet the same roles. -/
theorem test_eq (role : ParameterRole) {a b : NamedValue} (h : a.Same b) :
    role.test a = role.test b := by
  obtain ⟨hquantity, hgeometry⟩ := (NamedValue.same_iff_keys.1 h).2.kind_eq
  cases role with
  | samplingGeometry =>
    simp only [test, NamedValue.isSamplingGeometry, h.hasName_eq, hgeometry]
  | height => simp only [test, NamedValue.isHeight, h.hasName_eq, hquantity]
  | depth => simp only [test, NamedValue.isDepth, h.hasName_eq, hquantity]

end ParameterRole

namespace ParameterSet

variable {set other : ParameterSet} {ns ms : List NamedValue}

/-! ## The least of the items that pass a test -/

theorem exists_named {items : List Parameter} (h : ∀ p ∈ items, ∃ n, p = .named n) :
    ∃ ns : List NamedValue, items = ns.map .named := by
  induction items with
  | nil => exact ⟨[], rfl⟩
  | cons p items ih =>
    obtain ⟨⟨n, rfl⟩, hrest⟩ := List.forall_mem_cons.1 h
    obtain ⟨ns, rfl⟩ := ih hrest
    exact ⟨n :: ns, rfl⟩

theorem first_named (test : NamedValue → Bool) (ns : List NamedValue) :
    first test (ns.map .named) = .ok (ns.filter test).head? := by
  induction ns with
  | nil => rfl
  | cons n ns ih =>
    rw [List.map_cons, first, Parameter.asNamed, ok_bind]
    by_cases h : test n = true
    · simp [h]
    · simp [h, ih]

theorem mapM_asNamed (ns : List NamedValue) :
    (ns.map Parameter.named).mapM (·.asNamed) = .ok ns := by
  induction ns with
  | nil => rfl
  | cons n ns ih =>
    rw [List.map_cons, List.mapM_cons, ih]
    rfl

/-- The answer of a look-up: the least of the members that meet a condition, if there are any. -/
def IsLeast (Q : NamedValue → Prop) (ns : List NamedValue) : Option NamedValue → Prop
  | none => ∀ n ∈ ns, ¬ Q n
  | some n => n ∈ ns ∧ Q n ∧
      ∀ m ∈ ns, Q m → m = n ∨ (Parameter.named n).before (.named m) = .ok true

theorem isLeast_head? {Q : NamedValue → Prop} {test : NamedValue → Bool}
    (htest : ∀ n, test n = true ↔ Q n)
    (hsorted : ns.Pairwise fun n m => (Parameter.named n).before (.named m) = .ok true) :
    IsLeast Q ns (ns.filter test).head? := by
  have hmem (n : NamedValue) : n ∈ ns.filter test ↔ n ∈ ns ∧ Q n := by
    rw [List.mem_filter, htest]
  have hfilter := hsorted.filter test
  cases heq : ns.filter test with
  | nil =>
    intro n hn hQ
    have hempty := (hmem n).2 ⟨hn, hQ⟩
    rw [heq] at hempty
    cases hempty
  | cons n rest =>
    rw [heq] at hmem hfilter
    obtain ⟨hn, hQ⟩ := (hmem n).1 (List.mem_cons_self ..)
    refine ⟨hn, hQ, fun m hm hQm => ?_⟩
    rcases List.mem_cons.1 ((hmem m).2 ⟨hm, hQm⟩) with rfl | hrest
    · exact .inl rfl
    · exact .inr (List.rel_of_pairwise_cons hfilter hrest)

/-- What the look-ups answer in a set of these named values. -/
structure LooksUp (set : ParameterSet) (ns : List NamedValue) : Prop where
  items : set.items = ns.map .named
  sorted : ns.Pairwise fun n m => (Parameter.named n).before (.named m) = .ok true
  getAll : ∀ name, set.getAll name = .ok (ns.filter (·.GoesBy name))
  get : ∀ name, set.get? name = .ok ((ns.filter (·.GoesBy name)).head?.bind (·.value))
  role : ∀ role : ParameterRole, ∃ found, role.find set = .ok found ∧ IsLeast role.IsMetBy ns found
  heightOrDepth : ∃ d h, set.depth = .ok d ∧ set.height = .ok h ∧
    set.heightOrDepth = .ok (d <|> h)

theorem find_eq (hitems : set.items = ns.map .named) (role : ParameterRole) :
    role.find set = .ok (ns.filter role.test).head? := by
  cases role with
  | samplingGeometry => rw [ParameterRole.find, samplingGeometry, hitems, first_named]; rfl
  | height => rw [ParameterRole.find, height, hitems, first_named]; rfl
  | depth => rw [ParameterRole.find, depth, hitems, first_named]; rfl

theorem heightOrDepth_eq {d h : Option NamedValue} (hd : set.depth = .ok d)
    (hh : set.height = .ok h) : set.heightOrDepth = .ok (d <|> h) := by
  rw [heightOrDepth, hd, ok_bind]
  cases d with
  | some n => rfl
  | none => exact hh

theorem looksUp (hitems : set.items = ns.map .named)
    (hsorted : set.items.Pairwise fun p q => p.before q = .ok true) : LooksUp set ns := by
  have hname (name : String) : ns.filter (·.hasName name) = ns.filter (·.GoesBy name) := by
    refine List.filter_congr fun n _ => ?_
    rw [Bool.eq_iff_iff, NamedValue.hasName_iff, decide_eq_true_iff]
  rw [hitems, List.pairwise_map] at hsorted
  refine ⟨hitems, hsorted, ?_, ?_, ?_, ?_⟩
  · intro name
    rw [ParameterSet.getAll, hitems, mapM_asNamed, ← hname]
    rfl
  · intro name
    rw [get?, hitems, first_named, ← hname]
    rfl
  · intro role
    exact ⟨_, find_eq hitems role, isLeast_head? role.test_iff hsorted⟩
  · exact ⟨_, _, find_eq hitems .depth, find_eq hitems .height,
      heightOrDepth_eq (find_eq hitems .depth) (find_eq hitems .height)⟩

/-! ## Sets of the same parameters -/

/-- Two answers that are equal named values, or no named value both. -/
def SameFound (x y : Except Failure (Option NamedValue)) : Prop :=
  ∃ a b, x = .ok a ∧ y = .ok b ∧ Option.Rel NamedValue.Same a b

/-- Whether two sets are equal and every look-up gives equal answers in them. -/
structure Agree (set other : ParameterSet) : Prop where
  same : set.same other = .ok true
  items : List.Forall₂ (fun p q => p.same q = .ok true) set.items other.items
  getAll : ∀ name, ∃ found found', set.getAll name = .ok found ∧ other.getAll name = .ok found' ∧
    List.Forall₂ NamedValue.Same found found'
  get : ∀ name, ∃ v w, set.get? name = .ok v ∧ other.get? name = .ok w ∧ Value.SameKey v w
  role : ∀ role : ParameterRole, SameFound (role.find set) (role.find other)
  heightOrDepth : SameFound set.heightOrDepth other.heightOrDepth

section Agreement

variable {β : Type} [LinearOrder β] {P : Parameter → Prop} {rank : Parameter → β}
  {ranks : Finset β} {ps qs : List Parameter}

theorem forall₂_same_of_ranks (hranked : Parameter.Ranked P rank) (hps : ∀ p ∈ ps, P p)
    (hqs : ∀ q ∈ qs, P q) (h : ps.map rank = qs.map rank) :
    List.Forall₂ (fun p q => p.same q = .ok true) ps qs := by
  induction ps generalizing qs with
  | nil =>
    obtain rfl := List.map_eq_nil_iff.1 h.symm
    exact .nil
  | cons p ps ih =>
    cases qs with
    | nil => cases h
    | cons q qs =>
      obtain ⟨hp, hps⟩ := List.forall_mem_cons.1 hps
      obtain ⟨hq, hqs⟩ := List.forall_mem_cons.1 hqs
      obtain ⟨hhead, htail⟩ := List.cons.inj h
      exact .cons ((hranked.same_iff hp hq).2 hhead) (ih hps hqs htail)

/-- Sets of the same ranks hold equal parameters place by place. -/
theorem Holds.forall₂_same (hranked : Parameter.Ranked P rank) (hset : Holds P rank set ranks)
    (hother : Holds P rank other ranks) :
    List.Forall₂ (fun p q => p.same q = .ok true) set.items other.items := by
  refine forall₂_same_of_ranks hranked hset.within hother.within ?_
  refine List.Pairwise.eq_of_mem_iff (List.pairwise_map.2 hset.increasing)
    (List.pairwise_map.2 hother.increasing) fun r => ?_
  rw [← hset.mem_iff, ← hother.mem_iff]

theorem sameItems_of_forall₂ (h : List.Forall₂ (fun p q => p.same q = .ok true) ps qs) :
    sameItems Parameter.same ps qs = .ok true := by
  induction h with
  | nil => rfl
  | cons hpq h ih =>
    rw [sameItems, hpq, ok_bind]
    exact ih

theorem head?_rel {R : NamedValue → NamedValue → Prop} (h : List.Forall₂ R ns ms) :
    Option.Rel R ns.head? ms.head? := by
  cases h with
  | nil => exact .none
  | cons hab h => exact .some hab

theorem filter_rel {test : NamedValue → Bool} (htest : ∀ {a b}, a.Same b → test a = test b)
    (h : List.Forall₂ NamedValue.Same ns ms) :
    List.Forall₂ NamedValue.Same (ns.filter test) (ms.filter test) :=
  List.rel_filter (fun _ _ hab => Bool.eq_iff_iff.1 (htest hab)) h

theorem rel_orElse {R : NamedValue → NamedValue → Prop} {a b c d : Option NamedValue}
    (hab : Option.Rel R a b) (hcd : Option.Rel R c d) : Option.Rel R (a <|> c) (b <|> d) := by
  cases hab with
  | some h => exact .some h
  | none => exact hcd

theorem agree (hset : LooksUp set ns) (hother : LooksUp other ms)
    (hsame : List.Forall₂ (fun p q => p.same q = .ok true) set.items other.items) :
    Agree set other := by
  have hns : List.Forall₂ NamedValue.Same ns ms := by
    rw [hset.items, hother.items, List.forall₂_map_left_iff, List.forall₂_map_right_iff] at hsame
    exact hsame
  have hname (name : String) : List.Forall₂ NamedValue.Same (ns.filter (·.GoesBy name))
      (ms.filter (·.GoesBy name)) := by
    refine filter_rel (fun {a b} hab => ?_) hns
    rw [Bool.eq_iff_iff, decide_eq_true_iff, decide_eq_true_iff, ← NamedValue.hasName_iff,
      ← NamedValue.hasName_iff, hab.hasName_eq]
  have hrole (role : ParameterRole) : Option.Rel NamedValue.Same (ns.filter role.test).head?
      (ms.filter role.test).head? := head?_rel (filter_rel role.test_eq hns)
  refine ⟨?_, hsame, ?_, ?_, ?_, ?_⟩
  · rw [ParameterSet.same, if_pos (by exact hsame.length_eq)]
    exact sameItems_of_forall₂ hsame
  · intro name
    exact ⟨_, _, hset.getAll name, hother.getAll name, hname name⟩
  · intro name
    have hhead := head?_rel (hname name)
    refine ⟨_, _, hset.get name, hother.get name, ?_⟩
    generalize (ns.filter (·.GoesBy name)).head? = a, (ms.filter (·.GoesBy name)).head? = b at hhead
    cases hhead with
    | none => exact ⟨_, _, rfl, rfl, rfl⟩
    | some h => exact (NamedValue.same_iff_keys.1 h).2
  · intro role
    exact ⟨_, _, find_eq hset.items role, find_eq hother.items role, hrole role⟩
  · refine ⟨_, _, heightOrDepth_eq (find_eq hset.items .depth) (find_eq hset.items .height),
      heightOrDepth_eq (find_eq hother.items .depth) (find_eq hother.items .height), ?_⟩
    exact rel_orElse (hrole .depth) (hrole .height)

/-- **A look-up answers with the least candidate, whatever the order of insertion.** If a list of
named values that can be compared is put into a set in two different orders, both sets are made,
they are equal and hold equal members place by place. The members of an address are those that go by
it, in their order, and the first of them gives the value of the address. A role is played by the
least member of its address and variant, whatever stands before it, and by none if there is none;
depth goes before height. All these answers are equal in both sets. -/
theorem lookups_of_perm (hranked : Parameter.Ranked P rank)
    (hnamed : ∀ {p}, P p → ∃ n, p = .named n) (hps : ∀ p ∈ ps, P p) (hperm : ps.Perm qs) :
    ∃ set other ns ms, ofList ps = .ok set ∧ ofList qs = .ok other ∧
      Holds P rank set (ps.map rank).toFinset ∧ LooksUp set ns ∧ LooksUp other ms ∧
      Agree set other := by
  have hqs : ∀ q ∈ qs, P q := fun q hq => hps q (hperm.mem_iff.2 hq)
  obtain ⟨set, hmade, hset⟩ := holds_ofList hranked hps
  obtain ⟨other, hmade', hother⟩ := holds_ofList hranked hqs
  rw [← List.toFinset_eq_of_perm _ _ (hperm.map rank)] at hother
  obtain ⟨ns, hns⟩ := exists_named fun p hp => hnamed (hset.within p hp)
  obtain ⟨ms, hms⟩ := exists_named fun p hp => hnamed (hother.within p hp)
  have hlooks := looksUp hns (hset.isSortedSet hranked).increasing
  have hlooks' := looksUp hms (hother.isSortedSet hranked).increasing
  exact ⟨set, other, ns, ms, hmade, hmade', hset, hlooks, hlooks',
    agree hlooks hlooks' (hset.forall₂_same hranked hother)⟩

end Agreement

/-- Two heights, and a count that goes by the same address and stands before both. -/
theorem lookups_of_perm_heights :
    let height (kind : ComponentKind) (n : Int) : Parameter := .named
      ⟨some (.ofText Vocabulary.height), some (.component { kind, value := .int n, unit := .missing })⟩
    let low := height .quantity 1
    let high := height .quantity 2
    let count := height .count 3
    ∃ set other, ofList [high, count, low] = .ok set ∧ ofList [low, high, count] = .ok other ∧
      set.same other = .ok true ∧ SameFound set.height other.height ∧
      ∃ n, set.height = .ok (some n) ∧ ParameterRole.height.IsMetBy n ∧
        (Parameter.named n).before high = .ok true := by
  intro height low high count
  have hregular (kind : ComponentKind) (n : Int) : (height kind n).IsRegular fun _ => 1 := by
    rintro _ ⟨⟩
    exact ⟨⟨1, [.int n], .number rfl⟩, none, rfl⟩
  have hnamed {p : Parameter} (hp : p.IsRegular fun _ => 1) : ∃ n, p = .named n := by
    obtain ⟨n, rfl, -⟩ := hp.exists_named
    exact ⟨n, rfl⟩
  have hps : ∀ p ∈ [high, count, low], p.IsRegular fun _ => 1 := by
    simp [high, count, low, hregular]
  have hperm : [high, count, low].Perm [low, high, count] :=
    @List.perm_append_comm _ [high, count] [low]
  obtain ⟨set, other, ns, ms, hset, hother, hholds, hlooks, -, hagree⟩ :=
    lookups_of_perm (Parameter.ranked_regular rfl) hnamed hps hperm
  refine ⟨set, other, hset, hother, hagree.same, hagree.role .height, ?_⟩
  have hfound : ((ofList [high, count, low] >>= (·.height)).toOption.any fun found =>
      found.any fun n => ((Parameter.named n).before high).toOption == some true) = true := by
    decide +kernel
  rw [hset, ok_bind] at hfound
  obtain ⟨found, hheight, hleast⟩ := hlooks.role .height
  have hheight : set.height = .ok found := hheight
  rw [hheight, toOption_ok, Option.any_some, Option.any_eq_true] at hfound
  obtain ⟨n, rfl, hbefore⟩ := hfound
  exact ⟨n, hheight, hleast.2.1, toOption_eq_some.1 (beq_iff_eq.1 hbefore)⟩

end ParameterSet

end SensorSeries
