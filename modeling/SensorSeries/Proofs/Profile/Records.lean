import Mathlib.Data.List.Nodup
import SensorSeries.Profile.Level
import SensorSeries.Proofs.Answers

/-!
# Records of levels

A level is laid out as a record: a field for each bound that is set, then a field for every value
that describes itself. The fields of the values do not depend on what the record held before, they
follow the values in order, and the names that are made up for values without one differ from each
other (`lays_out_values`).
-/

namespace SensorSeries

/-- What an attribute says; a missing or an empty text says nothing. -/
def Says (s : Option String) (text : String) : Prop := s = some text ∧ text ≠ ""

theorem isFilled_iff {s : Option String} : isFilled s = true ↔ ∃ text, Says s text := by
  cases s <;> simp [isFilled, Says]

namespace ProfileLevel

/-! ## Names -/

/-- The name that is made up for a value. -/
def numberedName (k : Nat) : String := "component_" ++ toString k

theorem numberedName_injective : Function.Injective numberedName := by
  intro m n h
  have htext : toString m = toString n := (String.append_right_inj "component_").1 h
  have hread := congrArg (fun s : String => Nat.ofDigitChars 10 s.toList 0) htext
  simpa only [Nat.toString_eq_repr, Nat.toList_repr, Nat.ofDigitChars_ten_toDigits] using hread

def describesItself (v : Option Value) : Bool := (v.bind (·.component?)).isSome

/-- Whether a value describes itself, but says neither its name nor its definition. -/
def isNameless (v : Option Value) : Bool :=
  (v.bind (·.component?)).any fun c => !c.isSetName && !c.isSetDefinition

/-- What a component is called in a record, if `k` names have been made up before: by its name, else
by its definition, else by a name that is made up. -/
inductive IsCalled (c : Component) (k : Nat) : String → Prop
  | name {text : String} (h : Says c.name text) : IsCalled c k text
  | definition {text : String} (hname : ∀ t, ¬ Says c.name t) (h : Says c.definition text) :
    IsCalled c k text
  | numbered (hname : ∀ t, ¬ Says c.name t) (hdefinition : ∀ t, ¬ Says c.definition t) :
    IsCalled c k (numberedName k)

variable {c : Component} {v : Option Value}

/-- A value describes itself if it is a component. -/
theorem value_cases (v : Option Value) :
    (v.bind (·.component?) = none ∧ describesItself v = false ∧ isNameless v = false) ∨
      ∃ c, v = some (.component c) := by
  rcases v with _ | v
  · exact .inl ⟨rfl, rfl, rfl⟩
  · cases v with
    | component c => exact .inr ⟨c, rfl⟩
    | _ => exact .inl ⟨rfl, rfl, rfl⟩

/-- The name that a component is called by. -/
def fieldName (c : Component) (k : Nat) : String := (nameOf? c).getD (numberedName k)

theorem isCalled_fieldName (c : Component) (k : Nat) : IsCalled c k (fieldName c k) := by
  rw [fieldName, nameOf?]
  split
  · next hname =>
    obtain ⟨text, htext⟩ := isFilled_iff.1 hname
    rw [htext.1]
    exact .name htext
  · next hname =>
    have hname : ∀ t, ¬ Says c.name t := fun t ht => hname (isFilled_iff.2 ⟨t, ht⟩)
    split
    · next hdefinition =>
      obtain ⟨text, htext⟩ := isFilled_iff.1 hdefinition
      rw [htext.1]
      exact .definition hname htext
    · next hdefinition =>
      exact .numbered hname fun t ht => hdefinition (isFilled_iff.2 ⟨t, ht⟩)

theorem nameOf?_isNone (c : Component) : (nameOf? c).isNone = isNameless (some (.component c)) := by
  have hsome {s : Option String} (h : isFilled s = true) : s.isNone = false := by
    obtain ⟨text, rfl, -⟩ := isFilled_iff.1 h
    rfl
  rw [nameOf?, isNameless, Option.bind_some, Value.component?, Option.any_some]
  split
  · next hname => rw [hsome hname, hname]; rfl
  · next hname =>
    rw [Bool.eq_false_iff.2 hname]
    split
    · next hdefinition => rw [hsome hdefinition, hdefinition]; rfl
    · next hdefinition => rw [Bool.eq_false_iff.2 hdefinition]; rfl

/-! ## The fields of the values -/

theorem fieldsFrom_skipped (h : v.bind (·.component?) = none) (k : Nat)
    (rest : List (Option Value)) : fieldsFrom k (v :: rest) = fieldsFrom k rest := by
  rw [fieldsFrom, h]

/-- A value that describes itself makes one field, and counts if it is nameless. -/
theorem fieldsFrom_component (c : Component) (k : Nat) (rest : List (Option Value)) :
    fieldsFrom k (some (.component c) :: rest) = ⟨fieldName c k, some (.component c)⟩ ::
      fieldsFrom (if isNameless (some (.component c)) then k + 1 else k) rest := by
  rw [fieldsFrom, ← nameOf?_isNone, fieldName]
  dsimp only [Option.bind_some, Value.component?]
  cases nameOf? c <;> rfl

/-- The fields of two lists of values are made one after the other. -/
theorem fieldsFrom_append (k : Nat) (xs ys : List (Option Value)) :
    fieldsFrom k (xs ++ ys) = fieldsFrom k xs ++ fieldsFrom (k + xs.countP isNameless) ys := by
  induction xs generalizing k with
  | nil => rfl
  | cons v xs ih =>
    rcases value_cases v with ⟨hnone, -, hnameless⟩ | ⟨c, rfl⟩
    · rw [List.cons_append, fieldsFrom_skipped hnone, fieldsFrom_skipped hnone, ih,
        List.countP_cons, hnameless]
      rfl
    · rw [List.cons_append, fieldsFrom_component, fieldsFrom_component, ih, List.cons_append,
        List.countP_cons]
      split
      · rw [Nat.add_assoc, Nat.add_comm 1]
      · rfl

theorem map_element_fieldsFrom (k : Nat) (values : List (Option Value)) :
    (fieldsFrom k values).map (·.element) = values.filter describesItself := by
  induction values generalizing k with
  | nil => rfl
  | cons v values ih =>
    rcases value_cases v with ⟨hnone, hskipped, -⟩ | ⟨c, rfl⟩
    · rw [fieldsFrom_skipped hnone, ih, List.filter_cons, hskipped]
      rfl
    · rw [fieldsFrom_component, List.map_cons, ih]
      rfl

/-- The names that are made up are numbered one after the other. -/
theorem map_name_fieldsFrom (k : Nat) (values : List (Option Value)) :
    ((fieldsFrom k values).filter fun f => isNameless f.element).map (·.name) =
      (List.range' k (values.countP isNameless)).map numberedName := by
  induction values generalizing k with
  | nil => rfl
  | cons v values ih =>
    rcases value_cases v with ⟨hnone, -, hnameless⟩ | ⟨c, rfl⟩
    · rw [fieldsFrom_skipped hnone, ih, List.countP_cons, hnameless]
      rfl
    · rw [fieldsFrom_component, List.filter_cons, List.countP_cons]
      split
      · next hnameless =>
        have hname : fieldName c k = numberedName k := by
          rw [fieldName, Option.isNone_iff_eq_none.1 ((nameOf?_isNone c).trans hnameless)]
          rfl
        rw [List.map_cons, ih, List.range'_succ, List.map_cons, hname]
      · exact ih k

/-! ## Laying out a level -/

/-- The fields that values are laid out in: one for every value that describes itself, in the order
of the values and with the value as its element. Each is called by its own value, and the names that
are made up differ from each other. -/
structure AreLaidOut (values : List (Option Value)) (fields : List DataField) : Prop where
  elements : fields.map (·.element) = values.filter describesItself
  called : ∀ front c rest, values = front ++ some (.component c) :: rest →
    ∃ f ∈ fields[front.countP describesItself]?, f.element = some (.component c) ∧
      IsCalled c (front.countP isNameless) f.name
  distinct : ((fields.filter fun f => isNameless f.element).map (·.name)).Nodup

theorem areLaidOut_valueFields (l : ProfileLevel) : AreLaidOut l.values l.valueFields where
  elements := map_element_fieldsFrom 0 l.values
  called := by
    intro front c rest hvalues
    have hlength : front.countP describesItself = (fieldsFrom 0 front).length := by
      rw [List.countP_eq_length_filter, ← map_element_fieldsFrom 0, List.length_map]
    refine ⟨⟨fieldName c (front.countP isNameless), some (.component c)⟩, ?_, rfl,
      isCalled_fieldName c _⟩
    rw [valueFields, hvalues, fieldsFrom_append, fieldsFrom_component, hlength, Nat.zero_add]
    rw [List.getElem?_append_right (Nat.le_refl _), Nat.sub_self]
    rfl
  distinct := by
    rw [valueFields, map_name_fieldsFrom]
    exact (List.nodup_range' ..).map numberedName_injective

/-- The fields of a bound: none if it is missing, else one with the bound as its element, called by
the name that the bound says, or by another one if it says none. -/
inductive IsBoundField (fallback : String) : Option Value → List DataField → Prop
  | missing : IsBoundField fallback none []
  | named {c : Component} {text : String} (h : Says c.name text) :
    IsBoundField fallback (some (.component c)) [⟨text, some (.component c)⟩]
  | nameless {c : Component} (h : ∀ t, ¬ Says c.name t) :
    IsBoundField fallback (some (.component c)) [⟨fallback, some (.component c)⟩]

theorem boundField_eq_ok_iff {fallback : String} {b : Option Value} {fields : List DataField} :
    boundField fallback b = .ok fields ↔ IsBoundField fallback b fields := by
  constructor
  · intro h
    rcases b with _ | v
    · cases h
      exact .missing
    · cases v with
      | component c =>
        obtain rfl := Except.ok.inj h
        split
        · next hname =>
          obtain ⟨text, htext⟩ := isFilled_iff.1 hname
          rw [htext.1, Option.getD_some]
          exact .named htext
        · next hname =>
          exact .nameless fun t ht => hname (isFilled_iff.2 ⟨t, ht⟩)
      | _ => cases h
  · intro h
    cases h with
    | missing => rfl
    | @named c text h =>
      have hname : c.isSetName = true := isFilled_iff.2 ⟨text, h⟩
      rw [boundField, if_pos hname, h.1]
      rfl
    | @nameless c h =>
      have hname : ¬ c.isSetName = true := fun hname => (isFilled_iff.1 hname).elim h
      rw [boundField, if_neg hname]

/-- A bound has a field, or none, if it can be asked for its name. -/
theorem exists_isBoundField_iff {fallback : String} {b : Option Value} :
    (∃ fields, IsBoundField fallback b fields) ↔ b = none ∨ describesItself b = true := by
  constructor
  · rintro ⟨_, _ | _ | _⟩
    · exact .inl rfl
    · exact .inr rfl
    · exact .inr rfl
  · rintro (rfl | h)
    · exact ⟨_, .missing⟩
    · rcases value_cases b with ⟨-, hskipped, -⟩ | ⟨c, rfl⟩
      · cases hskipped.symm.trans h
      · by_cases hname : ∃ t, Says c.name t
        · exact ⟨_, .named hname.choose_spec⟩
        · exact ⟨_, .nameless (not_exists.1 hname)⟩

theorem toRecord_eq_ok_iff {l : ProfileLevel} {r : DataRecord} :
    l.toRecord = .ok r ↔ ∃ first last, IsBoundField "levelStart" l.start first ∧
      IsBoundField "levelEnd" l.stop last ∧ r = l.appendTo ⟨first ++ last⟩ := by
  simp only [toRecord, bind_eq_ok, boundField_eq_ok_iff, pure_eq_ok, Except.ok.injEq]
  constructor
  · rintro ⟨first, hfirst, last, hlast, rfl⟩
    exact ⟨first, last, hfirst, hlast, rfl⟩
  · rintro ⟨first, last, hfirst, hlast, rfl⟩
    exact ⟨first, hfirst, last, hlast, rfl⟩

/-- **A level lays out every value that describes itself once, in order, and under the right name.**
Whatever a record holds, the same fields are put behind it, also the next time. The record of the
level itself starts with the fields of its bounds; there is one if the bounds that are set describe
themselves. -/
theorem lays_out_values (l : ProfileLevel) :
    ∃ fields, AreLaidOut l.values fields ∧
      (∀ r : DataRecord, (l.appendTo r).fields = r.fields ++ fields ∧
        (l.appendTo (l.appendTo r)).fields = r.fields ++ fields ++ fields) ∧
      (∀ r, l.toRecord = .ok r ↔ ∃ first last, IsBoundField "levelStart" l.start first ∧
        IsBoundField "levelEnd" l.stop last ∧ r = l.appendTo ⟨first ++ last⟩) ∧
      ((∃ r, l.toRecord = .ok r) ↔ (l.start = none ∨ describesItself l.start = true) ∧
        (l.stop = none ∨ describesItself l.stop = true)) := by
  refine ⟨l.valueFields, l.areLaidOut_valueFields, fun r => ⟨rfl, rfl⟩, fun r => toRecord_eq_ok_iff,
    ?_⟩
  rw [← @exists_isBoundField_iff "levelStart", ← @exists_isBoundField_iff "levelEnd"]
  constructor
  · rintro ⟨r, hr⟩
    obtain ⟨first, last, hfirst, hlast, -⟩ := toRecord_eq_ok_iff.1 hr
    exact ⟨⟨first, hfirst⟩, ⟨last, hlast⟩⟩
  · rintro ⟨⟨first, hfirst⟩, ⟨last, hlast⟩⟩
    exact ⟨_, toRecord_eq_ok_iff.2 ⟨first, last, hfirst, hlast, rfl⟩⟩

end ProfileLevel

end SensorSeries
