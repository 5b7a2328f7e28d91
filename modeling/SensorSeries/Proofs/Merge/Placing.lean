import SensorSeries.Proofs.Merge.Associativity

/-!
# Merging a list is placing one observation after the other

`Group.place` extends a group in place once it has been merged, and keeps count of where it began.
`place?` does without both: every observation is merged into the first one of the list that it
joins. `mergeAll_eq_placeAll` tells that nothing is lost. The invariant, `Group.WF`, is that a group
that has grown holds a series without explicit time, so that extending and merging are one.
-/

namespace SensorSeries

namespace Observation

/-- The merged observation, if the merge goes through. -/
def merge? (a b : Observation) : Option Observation := (a.merge b).toOption

/-- Merges an observation into the first of a list that it joins, or puts it behind them all. -/
def place? (o : Observation) : List Observation → Option (List Observation)
  | [] => some [o]
  | g :: rest =>
    if g.joins o then (g.merge? o).map (· :: rest) else (place? o rest).map (g :: ·)

/-- Places the observations of a list one after the other. -/
def placeAll? (acc os : List Observation) : Option (List Observation) :=
  os.foldlM (fun acc o => place? o acc) acc

theorem place?_cons_joins {g o : Observation} (h : g.joins o = true) (rest : List Observation) :
    place? o (g :: rest) = (g.merge? o).map (· :: rest) := by
  rw [place?, h, if_pos rfl]

theorem place?_cons_apart {g o : Observation} (h : g.joins o = false) (rest : List Observation) :
    place? o (g :: rest) = (place? o rest).map (g :: ·) := by
  rw [place?, h, if_neg Bool.false_ne_true]

@[simp] theorem placeAll?_nil (acc : List Observation) : placeAll? acc [] = some acc := rfl

@[simp] theorem placeAll?_cons (acc : List Observation) (o : Observation) (os : List Observation) :
    placeAll? acc (o :: os) = (place? o acc).bind fun acc => placeAll? acc os := rfl

theorem placeAll?_append (acc xs ys : List Observation) :
    placeAll? acc (xs ++ ys) = (placeAll? acc xs).bind fun acc => placeAll? acc ys :=
  List.foldlM_append ..

theorem placeAll?_concat (acc os : List Observation) (o : Observation) :
    placeAll? acc (os ++ [o]) = (placeAll? acc os).bind (place? o) := by
  rw [placeAll?_append]
  exact Option.bind_congr fun acc' _ => Option.bind_fun_some _

/-! ## What merging keeps -/

variable {a b o m : Observation} {acc ms os : List Observation}

theorem mergeKey_of_merge? (h : a.merge? b = some m) : m.mergeKey = a.mergeKey :=
  mergeKey_of_merge (toOption_eq_some.1 h)

theorem IsPlain.merge? (ha : a.IsPlain) (hb : b.IsPlain) (h : a.merge? b = some m) :
    m.IsPlain := by
  have hjoin := (merge_eq_ok_iff.1 (toOption_eq_some.1 h)).2
  rw [join_eq ha.result hb.result] at hjoin
  obtain ⟨t, -, hm⟩ := bind_eq_ok.1 hjoin
  cases hm
  exact ha.withSeries _ t

/-- All that placing an observation can do: put it behind the others, none of which it joins, or
merge it into one that it joins. -/
theorem place?_cases (h : place? o acc = some ms) :
    (ms = acc ++ [o] ∧ ∀ g ∈ acc, g.joins o = false) ∨
    ∃ before g after m, acc = before ++ g :: after ∧ g.joins o = true ∧ g.merge? o = some m ∧
      ms = before ++ m :: after := by
  induction acc generalizing ms with
  | nil =>
    cases h
    exact .inl ⟨rfl, by simp⟩
  | cons g rest ih =>
    cases hj : g.joins o with
    | true =>
      rw [place?_cons_joins hj] at h
      obtain ⟨m, hm, rfl⟩ := Option.map_eq_some_iff.1 h
      exact .inr ⟨[], g, rest, m, rfl, hj, hm, rfl⟩
    | false =>
      rw [place?_cons_apart hj] at h
      obtain ⟨ms, hms, rfl⟩ := Option.map_eq_some_iff.1 h
      obtain ⟨rfl, hapart⟩ | ⟨before, p, after, m, rfl, hp, hm, rfl⟩ := ih hms
      · exact .inl ⟨rfl, List.forall_mem_cons.2 ⟨hj, hapart⟩⟩
      · exact .inr ⟨g :: before, p, after, m, rfl, hp, hm, rfl⟩

theorem isPlain_of_place? (hacc : ∀ g ∈ acc, g.IsPlain) (ho : o.IsPlain)
    (h : place? o acc = some ms) : ∀ g ∈ ms, g.IsPlain := by
  obtain ⟨rfl, -⟩ | ⟨before, g, after, m, rfl, -, hm, rfl⟩ := place?_cases h
  · exact List.forall_mem_append.2 ⟨hacc, by simpa using ho⟩
  · obtain ⟨hbefore, hg⟩ := List.forall_mem_append.1 hacc
    obtain ⟨hg, hafter⟩ := List.forall_mem_cons.1 hg
    exact List.forall_mem_append.2
      ⟨hbefore, List.forall_mem_cons.2 ⟨hg.merge? ho hm, hafter⟩⟩

theorem isPlain_of_placeAll? (hacc : ∀ g ∈ acc, g.IsPlain) (hos : ∀ o ∈ os, o.IsPlain)
    (h : placeAll? acc os = some ms) : ∀ g ∈ ms, g.IsPlain := by
  induction os generalizing acc with
  | nil =>
    cases h
    exact hacc
  | cons o os ih =>
    obtain ⟨ho, hos⟩ := List.forall_mem_cons.1 hos
    obtain ⟨acc', hplace, h⟩ := Option.bind_eq_some_iff.1 h
    exact ih (isPlain_of_place? hacc ho hplace) hos h

/-- A series without explicit time is extended by merging. -/
theorem extend_eq_join {s : Series} (h : a.result = some (.ofSeries s)) (b : Observation) :
    a.extend b = a.join b := by
  unfold extend join
  rw [h]
  rfl

end Observation

namespace Group

/-- A group with a plain observation, which holds a series without explicit time if the group has
grown. -/
structure WF (g : Group) : Prop where
  plain : g.observation.IsPlain
  series : g.grown = true → ∃ s, g.observation.result = some (.ofSeries s)

variable {g : Group} {gs gs' : List Group} {o : Observation}

/-- The observations of groups. -/
abbrev observations (gs : List Group) : List Observation := gs.map (·.observation)

theorem extend_eq (hg : g.WF) (hj : g.observation.joins o = true) :
    g.extend o = do return { g with observation := ← g.observation.merge o, grown := true } := by
  unfold Group.extend
  cases hgrown : g.grown with
  | false => rfl
  | true =>
    obtain ⟨s, hs⟩ := hg.series hgrown
    simp [Observation.extend_eq_join hs, Observation.merge_of_joins hj]

theorem WF.extend (hg : g.WF) (ho : o.IsPlain) (hj : g.observation.joins o = true) {g' : Group}
    (h : g.extend o = .ok g') : g'.WF := by
  rw [extend_eq hg hj] at h
  obtain ⟨m, hm, h⟩ := bind_eq_ok.1 h
  cases h
  rw [Observation.merge_of_joins hj, Observation.join_eq hg.plain.result ho.result] at hm
  obtain ⟨t, -, hm⟩ := bind_eq_ok.1 hm
  cases hm
  exact ⟨hg.plain.withSeries _ t, fun _ => ⟨_, rfl⟩⟩

theorem place_cons_joins (hg : g.WF) (hj : g.observation.joins o = true) (i : Nat) :
    place o i (g :: gs) = do return (← g.extend o) :: gs := by
  rw [place, Observation.canMerge_eq_ok hg.plain.constellation o, hj]
  rfl

theorem place_cons_apart (hg : g.WF) (hj : g.observation.joins o = false) (i : Nat) :
    place o i (g :: gs) = do return g :: (← place o i gs) := by
  rw [place, Observation.canMerge_eq_ok hg.plain.constellation o, hj]
  rfl

theorem WF.place (hgs : ∀ g ∈ gs, g.WF) (ho : o.IsPlain) {i : Nat}
    (h : place o i gs = .ok gs') : ∀ g ∈ gs', g.WF := by
  induction gs generalizing gs' with
  | nil =>
    cases h
    simpa using ⟨ho, nofun⟩
  | cons g rest ih =>
    obtain ⟨hg, hrest⟩ := List.forall_mem_cons.1 hgs
    cases hj : g.observation.joins o with
    | true =>
      rw [place_cons_joins hg hj] at h
      obtain ⟨g', hg', h⟩ := bind_eq_ok.1 h
      cases h
      exact List.forall_mem_cons.2 ⟨hg.extend ho hj hg', hrest⟩
    | false =>
      rw [place_cons_apart hg hj] at h
      obtain ⟨gs', hgs', h⟩ := bind_eq_ok.1 h
      cases h
      exact List.forall_mem_cons.2 ⟨hg, ih hrest hgs'⟩

/-- One step: growing a group in place gives the observation that merging gives. -/
theorem observations_place (hgs : ∀ g ∈ gs, g.WF) (o : Observation) (i : Nat) :
    (place o i gs).toOption.map observations = Observation.place? o (observations gs) := by
  induction gs with
  | nil => rfl
  | cons g rest ih =>
    obtain ⟨hg, hrest⟩ := List.forall_mem_cons.1 hgs
    cases hj : g.observation.joins o with
    | true =>
      rw [place_cons_joins hg hj, extend_eq hg hj, observations, List.map_cons,
        Observation.place?_cons_joins hj, Observation.merge?]
      cases g.observation.merge o <;> rfl
    | false =>
      rw [place_cons_apart hg hj, observations, List.map_cons,
        Observation.place?_cons_apart hj, ← ih hrest]
      cases place o i rest <;> rfl

/-- A whole run, from any groups on. -/
theorem observations_foldlM (gs : List Group) (os : List Observation) (n : Nat)
    (hgs : ∀ g ∈ gs, g.WF) (hos : ∀ o ∈ os, o.IsPlain) :
    ((os.zipIdx n).foldlM (fun gs (o, i) => place o i gs) gs).toOption.map observations =
      Observation.placeAll? (observations gs) os := by
  induction os generalizing n gs with
  | nil => rfl
  | cons o os ih =>
    obtain ⟨ho, hos⟩ := List.forall_mem_cons.1 hos
    rw [List.zipIdx_cons, List.foldlM_cons, Observation.placeAll?_cons,
      ← observations_place hgs o n]
    dsimp only
    cases h : place o n gs with
    | error e => rfl
    | ok gs' => exact ih gs' (n + 1) (WF.place hgs ho h) hos

end Group

/-- Merging a list places its observations one after the other. -/
theorem Observation.mergeAll_eq_placeAll {os : List Observation} (hos : ∀ o ∈ os, o.IsPlain) :
    (mergeAll os).toOption = placeAll? [] os := by
  have h := Group.observations_foldlM [] os 0 (by simp) hos
  calc (mergeAll os).toOption
      = (Group.ofList os).toOption.map Group.observations := by
        unfold mergeAll
        cases Group.ofList os <;> rfl
    _ = placeAll? [] os := h

end SensorSeries
