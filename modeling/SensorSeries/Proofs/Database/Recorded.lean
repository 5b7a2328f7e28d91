import Mathlib.Data.List.ReduceOption
import Mathlib.Data.List.Forall2
import SensorSeries.Database.Stream
import SensorSeries.Proofs.Time.Validity

/-!
# Tables of observations

What the server holds is a table of `Recorded` observations. Its rows are read one by one, as samples
that are instants or periods (`Dates`); the query for times is answered with aggregates of the whole
table (`Summarizes`). Both ways come to the same hull of the phenomena (`Consistent.same_hull`,
`Summarizes.timesOf`). The valid times are asked for in the same query: if all of them start after
all of them have ended, the query fails, and tells nothing of the phenomena either.
-/

namespace SensorSeries

namespace Timestamp

/-- Whether counting universal time anew changes nothing. -/
def IsExact (t : Timestamp) : Prop := t.recounted = t

end Timestamp

/-- The cell of a column of timestamps. -/
def Datum.cell : Option Timestamp → Datum
  | none => .null
  | some t => .time t

theorem Datum.toTimestamp_cell {t : Option Timestamp} (h : ∀ s ∈ t, s.IsExact) :
    (cell t).toTimestamp = .ok t := by
  cases t with
  | none => rfl
  | some s => exact congrArg (fun s => Except.ok (some s)) (h s rfl)

/-- The times of an observation, as the server holds them. -/
structure Recorded where
  start : Timestamp
  stop : Option Timestamp
  result : Option Timestamp
  validStart : Option Timestamp
  validStop : Option Timestamp

namespace Recorded

open SensorSeries.Timestamp
open SensorSeries.Datum (cell)

def timestamps (o : Recorded) : List Timestamp :=
  [some o.start, o.stop, o.result, o.validStart, o.validStop].reduceOption

/-- The end of the phenomenon, or its start if there is none. -/
def last (o : Recorded) : Timestamp := o.stop.getD o.start

def valid (o : Recorded) : Option Time := some (.period ⟨o.validStart, o.validStop⟩)

/-- Whether a row tells of the observation. -/
def Tells (o : Recorded) (row : Row) : Prop :=
  ∃ rest, row = .time o.start :: cell o.stop :: cell o.result :: rest

/-- No observation ends before it starts, and all clocks can be compared. -/
structure Consistent (observations : List Recorded) : Prop where
  exact : ∀ t ∈ observations.flatMap timestamps, t.IsExact
  inOrder : ∀ o ∈ observations, ∀ e ∈ o.stop, o.start.position ≤ e.position
  comparable : ∀ s ∈ observations.flatMap timestamps, ∀ t ∈ observations.flatMap timestamps,
    s.comparable t = true

/-! ## Aggregates -/

/-- What SQL makes of a column: the extreme of the timestamps in it, or null if all cells are null. -/
def IsAggregate (R : Timestamp → Timestamp → Prop) (column : List (Option Timestamp)) (d : Datum) :
    Prop :=
  ∃ m, IsExtreme R column.reduceOption m ∧ d = cell m

abbrev IsMin := IsAggregate notAfter

abbrev IsMax := IsAggregate notBefore

/-- The answer to the query for times. -/
inductive Summarizes (observations : List Recorded) : Row → Prop
  | intro {start stop result validStart validStop : Datum}
      (hstart : IsMin (observations.map fun o => some o.start) start)
      (hstop : IsMax (observations.map fun o => o.stop <|> some o.start) stop)
      (hresult : IsMax (observations.map (·.result)) result)
      (hvalidStart : IsMin (observations.map (·.validStart)) validStart)
      (hvalidStop : IsMax (observations.map (·.validStop)) validStop) :
      Summarizes observations [start, stop, result, validStart, validStop]

variable {observations : List Recorded} {o : Recorded} {told : Row} {unit : UnitOfMeasure}

theorem reduceOption_map (f : Recorded → Option Timestamp) :
    (observations.map f).reduceOption = observations.flatMap fun o => (f o).toList := by
  rw [List.reduceOption, List.filterMap_map, List.filterMap_eq_flatMap_toList]
  rfl

/-- An answer to the query tells two hulls: of the phenomena, and of the valid times. -/
theorem Summarizes.exists_hulls (h : Summarizes observations told) :
    ∃ (covered valid : Period) (result : Option Timestamp),
      told = [cell covered.start, cell covered.stop, cell result, cell valid.start,
        cell valid.stop] ∧
      covered.IsHull (observations.map (·.start)) (observations.map last) ∧
      valid.IsHull ((observations.map Recorded.valid).flatMap Time.starts)
        ((observations.map Recorded.valid).flatMap Time.stops) ∧
      IsLatest (observations.flatMap (·.result.toList)) result := by
  cases h with
  | intro hstart hstop hresult hvalidStart hvalidStop =>
    obtain ⟨start, hstart, rfl⟩ := hstart
    obtain ⟨stop, hstop, rfl⟩ := hstop
    obtain ⟨result, hresult, rfl⟩ := hresult
    obtain ⟨validStart, hvalidStart, rfl⟩ := hvalidStart
    obtain ⟨validStop, hvalidStop, rfl⟩ := hvalidStop
    have hlast : (observations.map fun o => o.stop <|> some o.start).reduceOption =
        observations.map last := by
      rw [reduceOption_map, List.map_eq_flatMap]
      refine List.flatMap_congr fun o _ => ?_
      cases h : o.stop with
      | none => simp [last, h]
      | some e => simp [last, h]
    have hfirst : (observations.map fun o => some o.start).reduceOption =
        observations.map (·.start) := by
      rw [reduceOption_map, List.map_eq_flatMap]
      rfl
    rw [hfirst] at hstart
    rw [hlast] at hstop
    rw [reduceOption_map] at hresult hvalidStart hvalidStop
    refine ⟨⟨start, stop⟩, ⟨validStart, validStop⟩, result, rfl, ⟨hstart, hstop⟩, ⟨?_, ?_⟩, hresult⟩
    · rw [List.flatMap_map]
      exact hvalidStart
    · rw [List.flatMap_map]
      exact hvalidStop

theorem mem_timestamps {t : Timestamp} : t ∈ o.timestamps ↔ o.start = t ∨ o.stop = some t ∨
    o.result = some t ∨ o.validStart = some t ∨ o.validStop = some t := by
  simp [timestamps, List.reduceOption_mem_iff, eq_comm]

theorem last_mem_timestamps (o : Recorded) : o.last ∈ o.timestamps := by
  rw [mem_timestamps, last]
  cases o.stop with
  | none => exact .inl rfl
  | some e => exact .inr (.inl rfl)

/-- An answer tells nothing that the observations do not. -/
theorem mem_of_hulls {p v : Period} {r : Option Timestamp}
    (hp : p.IsHull (observations.map (·.start)) (observations.map last))
    (hv : v.IsHull ((observations.map Recorded.valid).flatMap Time.starts)
      ((observations.map Recorded.valid).flatMap Time.stops))
    (hr : IsLatest (observations.flatMap (·.result.toList)) r) :
    ∀ c ∈ [p.start, p.stop, r, v.start, v.stop], ∀ t ∈ c, t ∈ observations.flatMap timestamps := by
  have hmem {o : Recorded} (ho : o ∈ observations) {t : Timestamp} (ht : t ∈ o.timestamps) :
      t ∈ observations.flatMap timestamps :=
    List.mem_flatMap.2 ⟨o, ho, ht⟩
  have hfirst : ∀ t ∈ observations.map (·.start), t ∈ observations.flatMap timestamps := by
    intro t ht
    obtain ⟨o, ho, rfl⟩ := List.mem_map.1 ht
    exact hmem ho (mem_timestamps.2 (.inl rfl))
  have hlast : ∀ t ∈ observations.map last, t ∈ observations.flatMap timestamps := by
    intro t ht
    obtain ⟨o, ho, rfl⟩ := List.mem_map.1 ht
    exact hmem ho o.last_mem_timestamps
  have hresult : ∀ t ∈ observations.flatMap (·.result.toList),
      t ∈ observations.flatMap timestamps := by
    intro t ht
    obtain ⟨o, ho, ht⟩ := List.mem_flatMap.1 ht
    exact hmem ho (mem_timestamps.2 (.inr (.inr (.inl (Option.mem_toList.1 ht)))))
  have hvalid (bound : Option Time → List Timestamp)
      (hbound : ∀ o : Recorded, ∀ t ∈ bound o.valid, t ∈ o.timestamps) :
      ∀ t ∈ (observations.map Recorded.valid).flatMap bound,
        t ∈ observations.flatMap timestamps := by
    intro t ht
    rw [List.flatMap_map] at ht
    obtain ⟨o, ho, ht⟩ := List.mem_flatMap.1 ht
    exact hmem ho (hbound o t ht)
  have hvalidStart := hvalid Time.starts fun o t ht =>
    mem_timestamps.2 (.inr (.inr (.inr (.inl (Option.mem_toList.1 ht)))))
  have hvalidStop := hvalid Time.stops fun o t ht =>
    mem_timestamps.2 (.inr (.inr (.inr (.inr (Option.mem_toList.1 ht)))))
  simp only [List.forall_mem_cons]
  exact ⟨fun t ht => hfirst t (hp.start.mem t ht), fun t ht => hlast t (hp.stop.mem t ht),
    fun t ht => hresult t (hr.mem t ht), fun t ht => hvalidStart t (hv.start.mem t ht),
    fun t ht => hvalidStop t (hv.stop.mem t ht), List.forall_mem_nil _⟩

theorem Consistent.start_le_last (h : Consistent observations) (ho : o ∈ observations) :
    o.start.position ≤ o.last.position := by
  rw [last]
  cases hstop : o.stop with
  | none => exact Int.le_refl _
  | some e => exact h.inOrder o ho e hstop

/-- The hull of the phenomena starts before it ends, since every observation does. -/
theorem Consistent.inOrder_hull {p : Period} (h : Consistent observations)
    (hp : p.IsHull (observations.map (·.start)) (observations.map last)) : p.InOrder := by
  intro s hs e he
  obtain ⟨o, ho, rfl⟩ := List.mem_map.1 (hp.start.mem s hs)
  have hlast : o.last.position ≤ e.position := by
    have hlatest := hp.stop
    rw [show p.stop = some e from he] at hlatest
    exact hlatest.2 o.last (List.mem_map_of_mem ho)
  exact Int.le_trans (h.start_le_last ho) hlast

/-! ## The times in an answer -/

theorem ofData_cell {start stop : Option Timestamp} (hstart : ∀ s ∈ start, s.IsExact)
    (hstop : ∀ s ∈ stop, s.IsExact) :
    Period.ofData (cell start) (cell stop) = Period.make start stop := by
  rw [Period.ofData, Datum.toTimestamp_cell hstart, Datum.toTimestamp_cell hstop]
  rfl

/-- A valid time without bounds is none. -/
def validTime (v : Period) : Option Time := if v.isEmpty then none else some (.period v)

theorem validTimeOf_cell {start stop : Option Timestamp} (hstart : ∀ s ∈ start, s.IsExact)
    (hstop : ∀ s ∈ stop, s.IsExact) :
    Cursor.validTimeOf (cell start) (cell stop) = (Period.make start stop).map validTime := by
  have hdata : (do return some (Time.period (← Period.ofData (cell start) (cell stop)))) =
      (Period.make start stop).map fun v => some (Time.period v) := by
    rw [ofData_cell hstart hstop]
    cases Period.make start stop <;> rfl
  rcases start with _ | s
  · rcases stop with _ | e
    · rfl
    · exact hdata
  · rcases stop with _ | e
    · exact hdata
    · refine hdata.trans ?_
      rw [Period.make_bounded]
      split
      · split <;> rfl
      · rfl

/-- An answer with a start tells its times, unless the valid time is reversed. -/
theorem timesOf_cells {p v : Period} {r : Option Timestamp} {s : Timestamp}
    (hexact : ∀ c ∈ [p.start, p.stop, r, v.start, v.stop], ∀ t ∈ c, t.IsExact)
    (hstart : p.start = some s) (hp : Period.make p.start p.stop = .ok p) :
    Cursor.timesOf (some [cell p.start, cell p.stop, cell r, cell v.start, cell v.stop]) =
      (Period.make v.start v.stop).map fun v =>
        some { phenomenon := some (.period p), result := r.map fun t => .ofTimestamp (some t)
               valid := validTime v } := by
  have hvalid := validTimeOf_cell (hexact v.start (by simp)) (hexact v.stop (by simp))
  have hdata := ofData_cell (hexact p.start (by simp)) (hexact p.stop (by simp))
  have hresult := Datum.toTimestamp_cell (hexact r (by simp))
  rw [hp] at hdata
  rw [hstart] at hdata ⊢
  unfold Cursor.timesOf
  change (Cursor.validTimeOf (cell v.start) (cell v.stop) >>= _) = _
  rw [hvalid]
  cases Period.make v.start v.stop with
  | error e => rfl
  | ok v =>
    let finish (result : Option Instant) : Except Failure (Option Times) := do
      let phenomenon ← Period.ofData (cell (some s)) (cell p.stop)
      return some { phenomenon := some (.period phenomenon), result, valid := validTime v }
    have hfinish (result : Option Instant) :
        finish result = .ok (some { phenomenon := some (.period p), result, valid := validTime v }) := by
      unfold finish
      rw [hdata]
      rfl
    cases r with
    | none => exact hfinish none
    | some t =>
      change ((cell (some t)).toTimestamp >>= fun t => finish (some (.ofTimestamp t))) = _
      rw [hresult]
      exact hfinish (some (.ofTimestamp (some t)))

/-- Of observations that are consistent an answer tells all times, unless the valid time is reversed.
-/
theorem Consistent.timesOf_hulls {p v : Period} {r : Option Timestamp} (hc : Consistent observations)
    (hsome : observations ≠ []) (hp : p.IsHull (observations.map (·.start)) (observations.map last))
    (hv : v.IsHull ((observations.map Recorded.valid).flatMap Time.starts)
      ((observations.map Recorded.valid).flatMap Time.stops))
    (hr : IsLatest (observations.flatMap (·.result.toList)) r) :
    Cursor.timesOf (some [cell p.start, cell p.stop, cell r, cell v.start, cell v.stop]) =
        (Period.make v.start v.stop).map (fun v =>
          some { phenomenon := some (.period p), result := r.map fun t => .ofTimestamp (some t)
                 valid := validTime v }) ∧
      ∀ s ∈ v.start, ∀ e ∈ v.stop, e.comparable s = true := by
  have hcells := mem_of_hulls hp hv hr
  have hcomparable {start stop : Option Timestamp}
      (hstart : start ∈ [p.start, p.stop, r, v.start, v.stop])
      (hstop : stop ∈ [p.start, p.stop, r, v.start, v.stop]) :
      ∀ s ∈ start, ∀ e ∈ stop, e.comparable s = true := by
    intro s hs e he
    exact hc.comparable e (hcells _ hstop e he) s (hcells _ hstart s hs)
  refine ⟨?_, hcomparable (by simp) (by simp)⟩
  obtain ⟨s, hs⟩ : ∃ s, p.start = some s := by
    rw [← Option.ne_none_iff_exists', Ne, hp.start.eq_none_iff, List.map_eq_nil_iff]
    exact hsome
  have hmade := (hc.inOrder_hull hp).make_eq_ok (hcomparable (by simp) (by simp))
  exact timesOf_cells (fun c hmem t ht => hc.exact t (hcells c hmem t ht)) hs hmade

/-- **What the query for times tells.** It fails if the valid times cross. Otherwise it tells the
hull of the phenomena, if there are any, and the latest of the result times. -/
theorem Summarizes.timesOf (h : Summarizes observations told) (hc : Consistent observations) :
    (Time.Crossed (observations.map valid) →
      ∃ s e, Cursor.timesOf (some told) = .error (.periodReversed s e)) ∧
    (¬ Time.Crossed (observations.map valid) → ∃ times covered latest,
      Cursor.timesOf (some told) = .ok times ∧
      (times.getD {}).phenomenon = covered.map Time.period ∧ (covered = none ↔ observations = []) ∧
      (∀ p ∈ covered, p.IsHull (observations.map (·.start)) (observations.map last)) ∧
      (times.getD {}).result = latest.map (fun t => .ofTimestamp (some t)) ∧
      IsLatest (observations.flatMap (·.result.toList)) latest) := by
  obtain ⟨p, v, r, rfl, hp, hv, hr⟩ := h.exists_hulls
  by_cases hempty : observations = []
  · subst hempty
    have hstart : p.start = none := hp.start.eq_none_iff.2 rfl
    rw [hstart]
    refine ⟨fun hcrossed => absurd rfl hcrossed.exists_start, fun _ => ?_⟩
    refine ⟨none, none, none, rfl, rfl, iff_of_true rfl rfl, ?_, rfl, rfl⟩
    intro p hp
    cases hp
  obtain ⟨htimes, hcomparable⟩ := hc.timesOf_hulls hempty hp hv hr
  rw [htimes]
  constructor
  · intro hcrossed
    have hreversed : ¬ v.InOrder := fun hv' => hv.inOrder_iff.1 hv' hcrossed
    obtain ⟨s, e, hse⟩ := Period.exists_make_reversed hcomparable hreversed
    exact ⟨s, e, by rw [hse]; rfl⟩
  · intro hcrossed
    have hinOrder : v.InOrder := hv.inOrder_iff.2 hcrossed
    rw [hinOrder.make_eq_ok hcomparable]
    refine ⟨_, some p, r, rfl, rfl, iff_of_false nofun hempty, ?_, rfl, hr⟩
    rintro _ ⟨⟩
    exact hp

/-! ## The times in the rows -/

/-- What is read from a row that tells of an observation: an instant if the phenomenon ends when it
starts, or has no end, and a period otherwise. -/
structure Dates (o : Recorded) (t : Option Time) : Prop where
  proper : Time.IsProper t
  starts : Time.starts t = [o.start]
  stops : ∃ e, Time.stops t = [e] ∧ o.last.same e = true
  timestamps : ∀ s ∈ Time.timestamps t, s ∈ o.timestamps

theorem exists_of_mem {α β : Type} {R : α → β → Prop} {xs : List α} {ys : List β}
    (h : List.Forall₂ R xs ys) : (∀ x ∈ xs, ∃ y ∈ ys, R x y) ∧ ∀ y ∈ ys, ∃ x ∈ xs, R x y := by
  induction h with
  | nil => exact ⟨nofun, nofun⟩
  | @cons x y xs ys hxy _ ih =>
    constructor
    · intro z hz
      rcases List.mem_cons.1 hz with rfl | hz
      · exact ⟨y, List.mem_cons_self, hxy⟩
      · obtain ⟨w, hw, hzw⟩ := ih.1 z hz
        exact ⟨w, List.mem_cons_of_mem _ hw, hzw⟩
    · intro z hz
      rcases List.mem_cons.1 hz with rfl | hz
      · exact ⟨x, List.mem_cons_self, hxy⟩
      · obtain ⟨w, hw, hwz⟩ := ih.2 z hz
        exact ⟨w, List.mem_cons_of_mem _ hw, hwz⟩

variable {times : List (Option Time)}

/-- The bounds of the samples tell the same instants as those of the observations. -/
theorem same_bounds (bound : Option Time → List Timestamp) (instant : Recorded → Timestamp)
    (hbound : ∀ o t, Dates o t → ∃ s, bound t = [s] ∧ (instant o).same s = true)
    (h : List.Forall₂ Dates observations times) :
    (∀ s ∈ observations.map instant, ∃ t ∈ times.flatMap bound, s.same t = true) ∧
      ∀ t ∈ times.flatMap bound, ∃ s ∈ observations.map instant, s.same t = true := by
  constructor
  · intro s hs
    obtain ⟨o, ho, rfl⟩ := List.mem_map.1 hs
    obtain ⟨t, ht, hot⟩ := (exists_of_mem h).1 o ho
    obtain ⟨s', hs', hsame⟩ := hbound o t hot
    exact ⟨s', List.mem_flatMap.2 ⟨t, ht, by simp [hs']⟩, hsame⟩
  · intro s hs
    obtain ⟨t, ht, hst⟩ := List.mem_flatMap.1 hs
    obtain ⟨o, ho, hot⟩ := (exists_of_mem h).2 t ht
    obtain ⟨s', hs', hsame⟩ := hbound o t hot
    rw [hs', List.mem_singleton] at hst
    rw [hst]
    exact ⟨instant o, List.mem_map_of_mem ho, hsame⟩

theorem mem_timestamps_of_dates (h : List.Forall₂ Dates observations times) {s : Timestamp}
    (hs : s ∈ times.flatMap Time.timestamps) : s ∈ observations.flatMap timestamps := by
  obtain ⟨t, ht, hst⟩ := List.mem_flatMap.1 hs
  obtain ⟨o, ho, hot⟩ := (exists_of_mem h).2 t ht
  exact List.mem_flatMap.2 ⟨o, ho, hot.timestamps s hst⟩

/-- **The hull of the observations is the hull of the samples.** -/
theorem Consistent.same_hull {p q : Period} (hc : Consistent observations)
    (hdates : List.Forall₂ Dates observations times)
    (hp : p.IsHull (observations.map (·.start)) (observations.map last))
    (hq : q.IsHull (times.flatMap Time.starts) (times.flatMap Time.stops)) : p.same q = true := by
  have hcomparable {bound : Option Time → List Timestamp} {instant : Recorded → Timestamp}
      (hbound : ∀ t, bound t ⊆ Time.timestamps t) (hinstant : ∀ o, instant o ∈ timestamps o) :
      ∀ s ∈ observations.map instant, ∀ t ∈ times.flatMap bound, s.comparable t = true := by
    intro s hs t ht
    obtain ⟨o, ho, rfl⟩ := List.mem_map.1 hs
    obtain ⟨u, hu, htu⟩ := List.mem_flatMap.1 ht
    refine hc.comparable _ (List.mem_flatMap.2 ⟨o, ho, hinstant o⟩) t ?_
    exact mem_timestamps_of_dates hdates (List.mem_flatMap.2 ⟨u, hu, hbound u htu⟩)
  have hstarts := same_bounds Time.starts (·.start)
    (fun o t h => ⟨o.start, h.starts, o.start.same_refl⟩) hdates
  have hstops := same_bounds Time.stops last (fun o t h => h.stops) hdates
  have hstart : Instant.sameTimestamp p.start q.start = true :=
    hp.start.same position_eq_iff_notAfter hq.start hstarts.1 hstarts.2
      (hcomparable Time.starts_subset fun o => mem_timestamps.2 (.inl rfl))
  have hstop : Instant.sameTimestamp p.stop q.stop = true :=
    hp.stop.same position_eq_iff_notBefore hq.stop hstops.1 hstops.2
      (hcomparable Time.stops_subset last_mem_timestamps)
  rw [Period.same, hstart, hstop]
  rfl

/-- The samples of a table can be covered, by the period that the table tells. -/
theorem Consistent.exists_covered {samples : List Sample} (hc : Consistent observations)
    (hdates : List.Forall₂ Dates observations (samples.map (·.time))) (unit : UnitOfMeasure)
    {told : Option Period} (htold : told = none ↔ observations = [])
    (hhull : ∀ p ∈ told, p.IsHull (observations.map (·.start)) (observations.map last)) :
    ∃ covered, Series.phenomenonTime ⟨unit, samples⟩ = .ok covered ∧
      (covered = none ↔ observations = []) ∧
      Time.sameOption (told.map .period) (covered.map .period) = true := by
  have hproper : ∀ x ∈ samples, Time.IsProper x.time := by
    intro x hx
    obtain ⟨o, ho, hdate⟩ := (exists_of_mem hdates).2 x.time (List.mem_map_of_mem hx)
    exact hdate.proper
  obtain ⟨covered, hcovered, -, hnone, hcover⟩ := Series.exists_covered ⟨unit, samples⟩
    hproper fun s hs t ht => hc.comparable s (mem_timestamps_of_dates hdates hs) t
      (mem_timestamps_of_dates hdates ht)
  have hnil : samples = [] ↔ observations = [] := by
    have hlength := hdates.length_eq
    rw [List.length_map] at hlength
    rw [← List.length_eq_zero_iff, ← List.length_eq_zero_iff, hlength]
  have hboth : told = none ↔ covered = none := htold.trans (hnone.trans hnil).symm
  refine ⟨covered, hcovered, hnone.trans hnil, ?_⟩
  rcases told with _ | p
  · rw [hboth.1 rfl]
    rfl
  rcases covered with _ | q
  · cases hboth.2 rfl
  · exact hc.same_hull hdates (hhull p rfl) (hcover q rfl)

end Recorded

end SensorSeries
