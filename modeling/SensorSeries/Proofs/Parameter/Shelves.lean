import Mathlib.Logic.Function.Basic
import SensorSeries.Parameter.Shelf
import SensorSeries.Proofs.Parameter.Sets

/-!
# Runs on a shelf

Sets of a shelf are made, copied and changed one after another. A change concerns one set, its
target, and makes of it what the operations of a set make (`set_perform`). The ledger keeps a
mathematical set for every name and takes note of each change that succeeded; after every run the
shelf keeps the sets of the ledger (`Keeps.run`).
-/

namespace SensorSeries

namespace ParameterShelf

variable {shelf next : ParameterShelf} {name other : String} {set : ParameterSet}
  {items : List HeldParameter} {p : Parameter} {ps : List Parameter}

/-! ## Changes -/

inductive Change where
  | create (name : String) (ps : List Parameter)
  | add (name : String) (p : Parameter)
  | remove (name : String) (p : Parameter)
  | copy (name other : String)

namespace Change

/-- The name of the only set that is not left as it is. -/
def target : Change → String
  | .create name _ => name
  | .add name _ => name
  | .remove name _ => name
  | .copy _ other => other

def parameters : Change → List Parameter
  | .create _ ps => ps
  | .add _ p => [p]
  | .remove _ p => [p]
  | .copy _ _ => []

end Change

def perform (shelf : ParameterShelf) : Change → Attempt ParameterShelf
  | .create name ps => shelf.create name ps
  | .add name p => shelf.add name p
  | .remove name p => shelf.remove name p
  | .copy name other => shelf.copy name other

/-- The shelf after a change, whether it went through or not. -/
def after (shelf : ParameterShelf) (c : Change) : ParameterShelf := (shelf.perform c).state

def run (shelf : ParameterShelf) (changes : List Change) : ParameterShelf :=
  changes.foldl after shelf

/-- What the operations of a set make of the target. -/
def outcome (shelf : ParameterShelf) : Change → Except Failure ParameterSet
  | .create _ ps => ParameterSet.ofList ps
  | .add name p => do (← shelf.set name).add p
  | .remove name p => do (← shelf.set name).remove p
  | .copy name _ => shelf.set name

/-! ## The target -/

theorem find_put_self (shelf : ParameterShelf) (name : String) (items : List HeldParameter) :
    (shelf.put name items).find name = .ok items := by
  simp [find, put]

theorem find_put_of_ne (h : other ≠ name) :
    (shelf.put name items).find other = shelf.find other := by
  have hsets : (shelf.put name items).sets.find? (·.1 == other) =
      shelf.sets.find? (·.1 == other) := by
    have hnew : (name == other) = false := by simpa using h.symm
    simp only [put, List.find?_cons, hnew, List.find?_filter]
    congr 1
    funext entry
    by_cases hentry : entry.1 = other
    · simp [hentry, h]
    · simp [hentry]
  rw [find, find, hsets]

theorem set_put_self (shelf : ParameterShelf) (name : String) (items : List HeldParameter) :
    (shelf.put name items).set name = .ok (setOf items) := by
  rw [ParameterShelf.set, find_put_self]
  rfl

theorem set_put_of_ne (h : other ≠ name) :
    (shelf.put name items).set other = shelf.set other := by
  rw [ParameterShelf.set, find_put_of_ne h]
  rfl

theorem set_add (shelf : ParameterShelf) (name : String) (p : Parameter) :
    (Attempt.result (shelf.add name p) >>= fun next => next.set name) =
      (shelf.set name >>= fun set => set.add p) := by
  rw [add, ParameterShelf.set, Attempt.result_orLeave_bind]
  simp only [Attempt.result_orLeave_bind]
  cases shelf.find name with
  | error e => rfl
  | ok items =>
    have hmap := putBetween_map HeldParameter.parameter (fun q => q.before p) (fun q => q.same p)
      ⟨p, shelf.freshMark⟩ items
    simp only [ok_bind, pure_eq_ok, setOf, ParameterSet.add, hmap]
    cases putBetween (fun q : HeldParameter => q.parameter.before p)
      (fun q => q.parameter.same p) ⟨p, shelf.freshMark⟩ items with
    | error e => rfl
    | ok items => exact set_put_self shelf name items

theorem set_remove (shelf : ParameterShelf) (name : String) (p : Parameter) :
    (Attempt.result (shelf.remove name p) >>= fun next => next.set name) =
      (shelf.set name >>= fun set => set.remove p) := by
  rw [remove, ParameterShelf.set, Attempt.result_orLeave_bind]
  simp only [Attempt.result_orLeave_bind]
  cases shelf.find name with
  | error e => rfl
  | ok items =>
    have hmap := ParameterSet.removeFirst_map HeldParameter.parameter (fun q => q.same p) items
    simp only [ok_bind, pure_eq_ok, setOf, ParameterSet.remove, hmap]
    cases ParameterSet.removeFirst (fun q : HeldParameter => q.parameter.same p) items with
    | error e => rfl
    | ok items => exact set_put_self shelf name items

theorem set_addAll (shelf : ParameterShelf) (name : String) (ps : List Parameter) :
    (ps.foldlM (fun shelf p => Attempt.result (shelf.add name p)) shelf >>=
        fun next => next.set name) =
      (shelf.set name >>= fun set => ps.foldlM ParameterSet.add set) := by
  induction ps generalizing shelf with
  | nil =>
    simp only [List.foldlM_nil, bind_pure, pure_bind]
  | cons p ps ih =>
    simp only [List.foldlM_cons, bind_assoc]
    calc (Attempt.result (shelf.add name p) >>= fun next =>
          ps.foldlM (fun shelf p => Attempt.result (shelf.add name p)) next >>=
            fun last => last.set name)
        = Attempt.result (shelf.add name p) >>= fun next =>
            next.set name >>= fun set => ps.foldlM ParameterSet.add set :=
          bind_congr fun next => ih next
      _ = (Attempt.result (shelf.add name p) >>= fun next => next.set name) >>= fun set =>
            ps.foldlM ParameterSet.add set := (bind_assoc ..).symm
      _ = shelf.set name >>= fun set => set.add p >>= fun set =>
            ps.foldlM ParameterSet.add set := by rw [set_add, bind_assoc]

/-- A change makes of its target what the operations of a set make of it. -/
theorem set_perform (shelf : ParameterShelf) (c : Change) :
    ((shelf.perform c).result >>= fun next => next.set c.target) = shelf.outcome c := by
  cases c with
  | create name ps =>
    have hcreate := set_addAll (shelf.put name []) name ps
    rw [set_put_self] at hcreate
    rw [perform, create, Attempt.result_orLeave]
    exact hcreate
  | add name p => exact set_add shelf name p
  | remove name p => exact set_remove shelf name p
  | copy name other =>
    simp only [perform, Change.target, outcome, copy, ParameterShelf.set,
      Attempt.result_orLeave_bind]
    cases shelf.find name with
    | error e => rfl
    | ok items => exact set_put_self shelf other items

/-! ## The other sets -/

/-- The shelf got a set of this name, and all others stayed as they were. -/
structure Replaces (name : String) (shelf next : ParameterShelf) : Prop where
  known : ∃ set, next.set name = .ok set
  others : ∀ {other}, other ≠ name → next.set other = shelf.set other

theorem replaces_put (shelf : ParameterShelf) (name : String) (items : List HeldParameter) :
    Replaces name shelf (shelf.put name items) where
  known := ⟨_, set_put_self shelf name items⟩
  others h := set_put_of_ne h

theorem replaces_add (h : shelf.add name p = .ok next) : Replaces name shelf next := by
  obtain ⟨items, -, hadd⟩ := bind_eq_ok.1 h
  obtain ⟨kept, -, hput⟩ := bind_eq_ok.1 hadd
  obtain rfl := Except.ok.inj hput
  exact ⟨⟨_, set_put_self shelf name kept⟩, fun hother => set_put_of_ne hother⟩

theorem Replaces.addAll {first : ParameterShelf} (h : Replaces name first shelf)
    (hadd : ps.foldlM (fun shelf p => Attempt.result (shelf.add name p)) shelf = .ok next) :
    Replaces name first next := by
  induction ps generalizing shelf with
  | nil =>
    obtain rfl := Except.ok.inj hadd
    exact h
  | cons p ps ih =>
    rw [List.foldlM_cons, bind_eq_ok] at hadd
    obtain ⟨middle, hmiddle, hrest⟩ := hadd
    have hstep := replaces_add (Attempt.result_eq_ok.1 hmiddle)
    exact ih ⟨hstep.known, fun hother => (hstep.others hother).trans (h.others hother)⟩ hrest

theorem replaces_perform {c : Change} (h : shelf.perform c = .ok next) :
    Replaces c.target shelf next := by
  cases c with
  | create name ps => exact (replaces_put shelf name []).addAll (Attempt.orLeave_eq_ok.1 h)
  | add name p => exact replaces_add h
  | remove name p =>
    obtain ⟨items, -, hremove⟩ := bind_eq_ok.1 h
    obtain ⟨kept, -, hput⟩ := bind_eq_ok.1 hremove
    obtain rfl := Except.ok.inj hput
    exact replaces_put shelf name kept
  | copy name other =>
    obtain ⟨items, -, hput⟩ := bind_eq_ok.1 h
    obtain rfl := Except.ok.inj hput
    exact replaces_put shelf other items

/-! ## Changes that fail -/

/-- A change that fails has not changed anything yet, whichever of its steps it is that fails. -/
theorem left_of_perform {c : Change} {stopped : Stopped ParameterShelf}
    (h : shelf.perform c = .error stopped) : stopped.left = shelf := by
  cases c with
  | create name ps =>
    obtain ⟨cause, -, rfl⟩ := Attempt.orLeave_eq_error.1 h
    rfl
  | add name p | remove name p =>
    rcases bind_eq_error.1 h with hfind | ⟨items, -, hchange⟩
    · obtain ⟨cause, -, rfl⟩ := Attempt.orLeave_eq_error.1 hfind
      rfl
    · rcases bind_eq_error.1 hchange with hitems | ⟨kept, -, hput⟩
      · obtain ⟨cause, -, rfl⟩ := Attempt.orLeave_eq_error.1 hitems
        rfl
      · cases hput
  | copy name other =>
    rcases bind_eq_error.1 h with hfind | ⟨items, -, hput⟩
    · obtain ⟨cause, -, rfl⟩ := Attempt.orLeave_eq_error.1 hfind
      rfl
    · cases hput

/-- What a change does, told by the operations of a set. -/
structure Obeys (shelf : ParameterShelf) (c : Change) : Prop where
  done : ∀ next, shelf.perform c = .ok next →
    (∃ set, shelf.outcome c = .ok set ∧ next.set c.target = .ok set) ∧
    ∀ name, name ≠ c.target → next.set name = shelf.set name
  failed : ∀ stopped, shelf.perform c = .error stopped →
    shelf.outcome c = .error stopped.cause ∧ shelf.after c = shelf

theorem obeys (shelf : ParameterShelf) (c : Change) : shelf.Obeys c where
  done := by
    intro next hnext
    have hreplaces := replaces_perform hnext
    obtain ⟨set, hset⟩ := hreplaces.known
    have htarget := shelf.set_perform c
    rw [hnext, Attempt.result_ok, ok_bind, hset] at htarget
    exact ⟨⟨set, htarget.symm, hset⟩, fun name hname => hreplaces.others hname⟩
  failed := by
    intro stopped hstopped
    have htarget := shelf.set_perform c
    rw [hstopped, Attempt.result_error, error_bind] at htarget
    refine ⟨htarget.symm, ?_⟩
    rw [after, hstopped, Attempt.state_error]
    exact left_of_perform hstopped

/-! ## The ledger -/

/-- A mathematical set for every name in use. -/
abbrev Ledger (β : Type) : Type := String → Option (Finset β)

section Runs

variable {β : Type} [LinearOrder β] {P : Parameter → Prop} {rank : Parameter → β}
  {ledger : Ledger β} {c : Change} {changes : List Change}

namespace Ledger

/-- What a change makes of the ranks of its target. -/
def outcome (rank : Parameter → β) (ledger : Ledger β) : Change → Option (Finset β)
  | .create _ ps => some (ps.map rank).toFinset
  | .add name p => (ledger name).map (insert (rank p))
  | .remove name p => (ledger name).map (·.erase (rank p))
  | .copy name _ => ledger name

def performed (rank : Parameter → β) (ledger : Ledger β) (c : Change) : Ledger β :=
  Function.update ledger c.target (ledger.outcome rank c)

/-- The ledger after a run; changes that fail are not noted. -/
def kept (rank : Parameter → β) : ParameterShelf → Ledger β → List Change → Ledger β
  | _, ledger, [] => ledger
  | shelf, ledger, c :: changes =>
    match shelf.perform c with
    | .ok next => kept rank next (ledger.performed rank c) changes
    | .error _ => kept rank shelf ledger changes

end Ledger

/-- Whether every change of a run takes parameters of one domain only, unless it fails. -/
def Admits (P : Parameter → Prop) : ParameterShelf → List Change → Prop
  | _, [] => True
  | shelf, c :: changes =>
    ((∀ p ∈ c.parameters, P p) ∨ ∃ e, shelf.perform c = .error e) ∧ Admits P (shelf.after c) changes

/-- The shelf has the sets of the ledger, and no others. -/
structure Keeps (P : Parameter → Prop) (rank : Parameter → β) (shelf : ParameterShelf)
    (ledger : Ledger β) : Prop where
  unknown : ∀ {name}, ledger name = none → shelf.set name = .error .unknownName
  holds : ∀ {name ranks}, ledger name = some ranks →
    ∃ set, shelf.set name = .ok set ∧ set.Holds P rank ranks

namespace Keeps

theorem empty : Keeps P rank {} fun _ => none where
  unknown _ := rfl
  holds h := by cases h

theorem set_eq_ok (hkeeps : Keeps P rank shelf ledger) (hset : shelf.set name = .ok set) :
    ∃ ranks, ledger name = some ranks ∧ set.Holds P rank ranks := by
  cases hledger : ledger name with
  | none => cases (hkeeps.unknown hledger).symm.trans hset
  | some ranks =>
    obtain ⟨found, hfound, hholds⟩ := hkeeps.holds hledger
    obtain rfl := Except.ok.inj (hfound.symm.trans hset)
    exact ⟨ranks, rfl, hholds⟩

/-- The operations of a set do to its items what the ledger does to their ranks. -/
theorem outcome_eq (hranked : Parameter.Ranked P rank) (hkeeps : Keeps P rank shelf ledger)
    (hc : ∀ p ∈ c.parameters, P p) (hset : shelf.outcome c = .ok set) :
    ∃ ranks, ledger.outcome rank c = some ranks ∧ set.Holds P rank ranks := by
  cases c with
  | create name ps =>
    obtain ⟨made, hmade, hholds⟩ := ParameterSet.holds_ofList hranked hc
    obtain rfl := Except.ok.inj (hmade.symm.trans hset)
    exact ⟨_, rfl, hholds⟩
  | add name p =>
    obtain ⟨old, hold, hadd⟩ := bind_eq_ok.1 hset
    obtain ⟨ranks, hranks, hholds⟩ := hkeeps.set_eq_ok hold
    obtain ⟨new, hnew, hafter⟩ := hholds.add hranked (hc p (List.mem_singleton_self p))
    obtain rfl := Except.ok.inj (hnew.symm.trans hadd)
    exact ⟨_, by rw [Ledger.outcome, hranks, Option.map_some], hafter⟩
  | remove name p =>
    obtain ⟨old, hold, hremove⟩ := bind_eq_ok.1 hset
    obtain ⟨ranks, hranks, hholds⟩ := hkeeps.set_eq_ok hold
    have hafter := hholds.remove hranked (hc p (List.mem_singleton_self p)) hremove
    exact ⟨_, by rw [Ledger.outcome, hranks, Option.map_some], hafter⟩
  | copy name other => exact hkeeps.set_eq_ok hset

theorem performed (hranked : Parameter.Ranked P rank) (hkeeps : Keeps P rank shelf ledger)
    (hc : ∀ p ∈ c.parameters, P p) (hnext : shelf.perform c = .ok next) :
    Keeps P rank next (ledger.performed rank c) := by
  obtain ⟨⟨set, houtcome, htarget⟩, hothers⟩ := (shelf.obeys c).done next hnext
  obtain ⟨ranks, hranks, hholds⟩ := hkeeps.outcome_eq hranked hc houtcome
  have hself : ledger.performed rank c c.target = some ranks := by
    rw [Ledger.performed, Function.update_self, hranks]
  have hother {name : String} (hname : name ≠ c.target) :
      ledger.performed rank c name = ledger name := by
    rw [Ledger.performed, Function.update_of_ne hname]
  refine ⟨?_, ?_⟩
  · intro name hledger
    by_cases hname : name = c.target
    · rw [hname, hself] at hledger
      cases hledger
    · rw [hother hname] at hledger
      rw [hothers name hname, hkeeps.unknown hledger]
  · intro name kept hledger
    by_cases hname : name = c.target
    · rw [hname, hself] at hledger
      obtain rfl := Option.some.inj hledger
      exact ⟨set, by rw [hname, htarget], hholds⟩
    · rw [hother hname] at hledger
      rw [hothers name hname]
      exact hkeeps.holds hledger

theorem run (hranked : Parameter.Ranked P rank) (hkeeps : Keeps P rank shelf ledger)
    (hadmits : Admits P shelf changes) :
    Keeps P rank (shelf.run changes) (ledger.kept rank shelf changes) := by
  induction changes generalizing shelf ledger with
  | nil => exact hkeeps
  | cons c changes ih =>
    obtain ⟨hc, hrest⟩ := hadmits
    rw [ParameterShelf.run, List.foldl_cons]
    rw [after] at hrest ⊢
    rw [Ledger.kept]
    cases hnext : shelf.perform c with
    | error stopped =>
      rw [hnext, Attempt.state_error, left_of_perform hnext] at hrest
      rw [Attempt.state_error, left_of_perform hnext]
      exact ih hkeeps hrest
    | ok next =>
      rw [hnext] at hrest
      rcases hc with hc | ⟨e, he⟩
      · exact ih (hkeeps.performed hranked hc hnext) hrest
      · cases he.symm.trans hnext

end Keeps

/-- **The sets of a shelf are sorted sets on every run.** Each name stands for the set that was last
made or copied under it, with the parameters that were added since and not removed. Making a set of
parameters that can be compared does not fail, and what the next change does to its target is told by
the operations of that sorted set; a change that fails does nothing. -/
theorem run_isSortedSet (hranked : Parameter.Ranked P rank) (hadmits : Admits P {} changes) :
    let shelf := run {} changes
    let ledger := Ledger.kept rank {} (fun _ => none) changes
    (∀ name, match ledger name with
      | none => shelf.set name = .error .unknownName
      | some ranks => ∃ set, shelf.set name = .ok set ∧ set.IsSortedSet P rank ranks) ∧
    (∀ ps, (∀ p ∈ ps, P p) → ∃ set, ParameterSet.ofList ps = .ok set ∧
      set.IsSortedSet P rank (ps.map rank).toFinset) ∧
    ∀ c, shelf.Obeys c := by
  intro shelf ledger
  have hkeeps : Keeps P rank shelf ledger := Keeps.empty.run hranked hadmits
  refine ⟨?_, ?_, shelf.obeys⟩
  · intro name
    cases hledger : ledger name with
    | none => exact hkeeps.unknown hledger
    | some ranks =>
      obtain ⟨set, hset, hholds⟩ := hkeeps.holds hledger
      exact ⟨set, hset, hholds.isSortedSet hranked⟩
  · intro ps hps
    obtain ⟨set, hset, hholds⟩ := ParameterSet.holds_ofList hranked hps
    exact ⟨set, hset, hholds.isSortedSet hranked⟩

end Runs

/-- A set is copied and a parameter removed from the copy; a text cannot be added to it. -/
theorem run_isSortedSet_copied :
    let count (name : String) (k : Int) : Parameter := .named ⟨some (.ofText name),
      some (.component { kind := .count, value := .int k, unit := .missing })⟩
    let a := count "depth" 1
    let b := count "height" 2
    let changes : List Change := [.create "p" [b, a, b], .copy "p" "q", .remove "q" b,
      .add "q" (.other (.text "height"))]
    let shelf := run {} changes
    Admits (Parameter.IsRegular fun _ => 1) {} changes ∧
      (∃ set, shelf.set "p" = .ok set ∧ set.size = 2 ∧ set.contains b = .ok true) ∧
      ∃ set, shelf.set "q" = .ok set ∧ set.size = 1 ∧ set.contains b = .ok false := by
  intro count a b changes shelf
  have hregular (name : String) (k : Int) : (count name k).IsRegular fun _ => 1 := by
    rintro _ ⟨⟩
    exact ⟨⟨1, [.int k], .number rfl⟩, none, rfl⟩
  have hadmits : Admits (Parameter.IsRegular fun _ => 1) {} changes := by
    refine ⟨.inl ?_, .inl ?_, .inl ?_, .inr ?_, trivial⟩
    · simp [Change.parameters, hregular, a, b]
    · simp [Change.parameters]
    · simp [Change.parameters, hregular, b]
    · apply toOption_eq_none.1
      rw [← Option.isNone_iff_eq_none]
      decide +kernel
  have hp : Ledger.kept Parameter.code {} (fun _ => none) changes "p" = some {a.code, b.code} := by
    decide +kernel
  have hq : Ledger.kept Parameter.code {} (fun _ => none) changes "q" = some {a.code} := by
    decide +kernel
  have hne : a.code ≠ b.code := by decide +kernel
  obtain ⟨hsets, -, -⟩ := run_isSortedSet (Parameter.ranked_regular rfl) hadmits
  refine ⟨hadmits, ?_, ?_⟩
  · have hset := hsets "p"
    rw [hp] at hset
    obtain ⟨set, hset, hsorted⟩ := hset
    refine ⟨set, hset, ?_, ?_⟩
    · rw [hsorted.size, Finset.card_pair hne]
    · rw [hsorted.contains b (hregular _ _)]
      simp
  · have hset := hsets "q"
    rw [hq] at hset
    obtain ⟨set, hset, hsorted⟩ := hset
    refine ⟨set, hset, hsorted.size, ?_⟩
    rw [hsorted.contains b (hregular _ _)]
    simp [hne.symm]

end ParameterShelf

end SensorSeries
