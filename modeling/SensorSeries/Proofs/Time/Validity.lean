import SensorSeries.Proofs.Time.Hull
import SensorSeries.Stream.InMemory

/-!
# Periods in order

No period is made whose start lies after its end (`make_eq_ok_iff`). Widening a period keeps that up
as long as one of the times that it covers has both a start and an end. Among times that are open on
one side each, all the starts may lie after all the ends; the period that covers them then has its
start after its end (`widened_inOrder_iff`).
-/

namespace SensorSeries

/-- Whether there are starts and ends in a list of times, and each start lies after each end. -/
structure Time.Crossed (times : List (Option Time)) : Prop where
  exists_start : times.flatMap Time.starts ≠ []
  exists_stop : times.flatMap Time.stops ≠ []
  after : ∀ s ∈ times.flatMap Time.starts, ∀ e ∈ times.flatMap Time.stops, e.position < s.position

namespace Period

variable {start stop : Option Timestamp} {p q : Period} {times : List (Option Time)}

/-- Whether the start, if there is one, is not after the end, if there is one. -/
def InOrder (p : Period) : Prop := ∀ s ∈ p.start, ∀ e ∈ p.stop, s.position ≤ e.position

theorem make_bounded (s e : Timestamp) : make (some s) (some e) =
    if e.comparable s then
      if e.position < s.position then .error (.periodReversed s e) else .ok ⟨some s, some e⟩
    else .error .unorderable := by
  rw [make, Timestamp.ordered_before?]
  by_cases hcomparable : e.comparable s = true
  · rw [if_pos hcomparable, if_pos hcomparable, ok_bind]
    by_cases hlt : e.position < s.position
    · rw [if_pos hlt, if_pos (decide_eq_true hlt)]
      rfl
    · rw [if_neg hlt, if_neg (by simpa using hlt)]
      rfl
  · rw [if_neg hcomparable, if_neg hcomparable, error_bind]

theorem make_reversed {s e : Timestamp} (h : e.before? s = some true) :
    make (some s) (some e) = .error (.periodReversed s e) := by
  rw [make, h]
  rfl

theorem make_eq_ok_iff : make start stop = .ok p ↔
    ⟨start, stop⟩ = p ∧ ∀ s ∈ start, ∀ e ∈ stop, e.comparable s = true ∧ s.position ≤ e.position := by
  rcases start with _ | s
  · simp [make]
  rcases stop with _ | e
  · simp [make]
  rw [make_bounded]
  by_cases hcomparable : e.comparable s = true
  · by_cases hlt : e.position < s.position
    · have hle : ¬ s.position ≤ e.position := by omega
      simp [hcomparable, hlt, hle]
    · have hle : s.position ≤ e.position := by omega
      simp [hcomparable, hlt, hle]
  · simp [hcomparable]

theorem inOrder_of_make (h : make start stop = .ok p) : p.InOrder := by
  obtain ⟨rfl, hle⟩ := make_eq_ok_iff.1 h
  intro s hs e he
  exact (hle s hs e he).2

theorem InOrder.make_eq_ok (h : p.InOrder)
    (hcomparable : ∀ s ∈ p.start, ∀ e ∈ p.stop, e.comparable s = true) :
    make p.start p.stop = .ok p :=
  make_eq_ok_iff.2 ⟨rfl, fun s hs e he => ⟨hcomparable s hs e he, h s hs e he⟩⟩

/-- Of a period whose bounds can be compared the only question is whether they are in order. -/
theorem exists_make_reversed (hcomparable : ∀ s ∈ p.start, ∀ e ∈ p.stop, e.comparable s = true)
    (h : ¬ p.InOrder) : ∃ s e, make p.start p.stop = .error (.periodReversed s e) := by
  rcases p with ⟨_ | s, stop⟩
  · exact absurd nofun h
  rcases stop with _ | e
  · exact absurd (fun _ _ => nofun) h
  refine ⟨s, e, ?_⟩
  have hlt : e.position < s.position := by
    rw [← Int.not_le]
    intro hle
    refine h ?_
    rintro _ ⟨⟩ _ ⟨⟩
    exact hle
  rw [make_bounded, if_pos (hcomparable s rfl e rfl), if_pos hlt]

/-- The hull of some times is out of order when all their starts lie after all their ends. -/
theorem IsHull.inOrder_iff (h : q.IsHull (times.flatMap Time.starts) (times.flatMap Time.stops)) :
    q.InOrder ↔ ¬ Time.Crossed times := by
  obtain ⟨hstart, hstop⟩ := h
  rcases q with ⟨_ | s, stop⟩
  · have hnil : times.flatMap Time.starts = [] := hstart
    refine iff_of_true nofun ?_
    intro hcrossed
    exact hcrossed.exists_start hnil
  rcases stop with _ | e
  · have hnil : times.flatMap Time.stops = [] := hstop
    refine iff_of_true (fun _ _ => nofun) ?_
    intro hcrossed
    exact hcrossed.exists_stop hnil
  constructor
  · intro hp hcrossed
    have hle : s.position ≤ e.position := hp s rfl e rfl
    have hlt := hcrossed.after s hstart.1 e hstop.1
    omega
  · intro hcrossed
    rintro _ ⟨⟩ _ ⟨⟩
    by_cases hlt : e.position < s.position
    · refine absurd ?_ hcrossed
      refine ⟨List.ne_nil_of_mem hstart.1, List.ne_nil_of_mem hstop.1, ?_⟩
      intro u hu v hv
      have hsu : s.position ≤ u.position := hstart.2 u hu
      have hve : v.position ≤ e.position := hstop.2 v hv
      omega
    · exact Int.not_lt.1 hlt

end Period

namespace Time

/-- Periods that have been made, and instants, start before they end. -/
def IsMade : Option Time → Prop
  | some (.period p) => ∃ start stop, Period.make start stop = .ok p
  | some (.other _) => False
  | _ => True

/-- A single time with both a start and an end keeps the others from crossing. -/
theorem not_crossed {times : List (Option Time)} {t : Option Time} (hmade : IsMade t)
    (ht : t ∈ times) (hstarts : starts t ≠ []) (hstops : stops t ≠ []) : ¬ Crossed times := by
  intro hcrossed
  obtain ⟨s, hs⟩ := List.exists_mem_of_ne_nil _ hstarts
  obtain ⟨e, he⟩ := List.exists_mem_of_ne_nil _ hstops
  have hlt := hcrossed.after s (List.mem_flatMap.2 ⟨t, ht, hs⟩) e (List.mem_flatMap.2 ⟨t, ht, he⟩)
  rcases t with _ | i | p | d
  · cases hs
  · have hsame : s = e := Option.mem_unique (Option.mem_toList.1 hs) (Option.mem_toList.1 he)
    rw [hsame] at hlt
    exact Int.lt_irrefl _ hlt
  · obtain ⟨start, stop, hp⟩ := hmade
    have hle := Period.inOrder_of_make hp s (Option.mem_toList.1 hs) e (Option.mem_toList.1 he)
    omega
  · cases hs

theorem IsMade.isProper {t : Option Time} (h : IsMade t) : IsProper t := by
  rcases t with _ | i | p | d
  · trivial
  · trivial
  · trivial
  · exact h

end Time

namespace Period

/-- A period can be widened by all times that it can be compared with, and becomes their hull. -/
theorem exists_widened {p : Period} {times : List (Option Time)}
    (hproper : ∀ t ∈ times, Time.IsProper t)
    (hcomparable : ∀ s ∈ (some (.period p) :: times).flatMap Time.timestamps,
      ∀ t ∈ (some (.period p) :: times).flatMap Time.timestamps, s.comparable t = true) :
    ∃ q, p.extendAll times = .ok q ∧
      q.IsHull ((some (.period p) :: times).flatMap Time.starts)
        ((some (.period p) :: times).flatMap Time.stops) := by
  obtain ⟨aware, hkind⟩ := Timestamp.exists_kind hcomparable
  rw [List.flatMap_cons] at hkind
  obtain ⟨hp, htimes⟩ := List.forall_mem_append.1 hkind
  have hbounds : p.OfOneKind aware := by
    constructor
    · intro s hs
      exact hp s (List.mem_append_left _ (Option.mem_toList.2 hs))
    · intro s hs
      exact hp s (List.mem_append_right _ (Option.mem_toList.2 hs))
  obtain ⟨q, hq⟩ := hbounds.exists_extendAll hproper htimes
  refine ⟨q, hq, ?_⟩
  rw [List.flatMap_cons, List.flatMap_cons]
  exact p.isHull_self.extendAll hq

end Period

/-- The samples of a series can be covered by a period, their hull, if there are any. -/
theorem Series.exists_covered (series : Series)
    (hproper : ∀ x ∈ series.samples, Time.IsProper x.time)
    (hcomparable : ∀ s ∈ (series.samples.map (·.time)).flatMap Time.timestamps,
      ∀ t ∈ (series.samples.map (·.time)).flatMap Time.timestamps, s.comparable t = true) :
    ∃ covered, series.phenomenonTime = .ok covered ∧
      SampleList.timesOf series.samples = .ok (covered.map fun q =>
        { phenomenon := some (.period q), result := some (.ofTimestamp q.stop) }) ∧
      (covered = none ↔ series.samples = []) ∧
      ∀ q ∈ covered, q.IsHull ((series.samples.map (·.time)).flatMap Time.starts)
        ((series.samples.map (·.time)).flatMap Time.stops) := by
  obtain ⟨unit, samples⟩ := series
  have htimes : ∀ t ∈ samples.map (·.time), Time.IsProper t := by
    intro t ht
    obtain ⟨x, hx, rfl⟩ := List.mem_map.1 ht
    exact hproper x hx
  obtain ⟨q, hq⟩ := Period.exists_extendAll htimes hcomparable
  cases samples with
  | nil =>
    refine ⟨none, rfl, rfl, iff_of_true rfl rfl, ?_⟩
    intro q hq
    cases hq
  | cons x xs =>
    refine ⟨some q, ?_, ?_, iff_of_false nofun (List.cons_ne_nil x xs), ?_⟩
    · unfold Series.phenomenonTime
      rw [hq]
      rfl
    · unfold SampleList.timesOf
      rw [hq]
      rfl
    · rintro _ ⟨⟩
      exact Period.empty.isHull_self.extendAll hq

namespace Period

/-- **When a widened period is in order.** No period is made with its start after its end. However
it is widened after that, by instants and by periods that have been made, its start is not after its
end, unless all the starts that it has met lie after all the ends; they do not if one of the times
has both. The same holds of the period that the samples of a series cover. -/
theorem widened_inOrder_iff {start stop : Option Timestamp} {p : Period}
    {times : List (Option Time)} (hp : make start stop = .ok p) (hmade : ∀ t ∈ times, Time.IsMade t)
    (hcomparable : ∀ s ∈ (some (.period p) :: times).flatMap Time.timestamps,
      ∀ t ∈ (some (.period p) :: times).flatMap Time.timestamps, s.comparable t = true) :
    (∀ s e : Timestamp, e.before? s = some true →
      make (some s) (some e) = .error (.periodReversed s e)) ∧
    p.InOrder ∧
    (∀ before, before <+: times →
      (∃ q, p.extendAll before = .ok q ∧
        (q.InOrder ↔ ¬ Time.Crossed (some (.period p) :: before))) ∧
      ∀ t ∈ some (.period p) :: before, Time.starts t ≠ [] → Time.stops t ≠ [] →
        ¬ Time.Crossed (some (.period p) :: before)) ∧
    ∀ series : Series, series.samples.map (·.time) = times →
      ∃ covered, series.phenomenonTime = .ok covered ∧
        SampleList.timesOf series.samples = .ok (covered.map fun q =>
          { phenomenon := some (.period q), result := some (.ofTimestamp q.stop) }) ∧
        ∀ q ∈ covered, (q.InOrder ↔ ¬ Time.Crossed times) := by
  have hproper : ∀ t ∈ times, Time.IsProper t := fun t ht => (hmade t ht).isProper
  refine ⟨fun s e => make_reversed, inOrder_of_make hp, ?_, ?_⟩
  · intro before hbefore
    have hmet {α : Type} (f : Option Time → List α) {a : α}
        (ha : a ∈ (some (.period p) :: before).flatMap f) :
        a ∈ (some (.period p) :: times).flatMap f := by
      obtain ⟨t, ht, hat⟩ := List.mem_flatMap.1 ha
      exact List.mem_flatMap.2 ⟨t, List.cons_subset_cons _ hbefore.subset ht, hat⟩
    obtain ⟨q, hq, hull⟩ := exists_widened (fun t ht => hproper t (hbefore.subset ht))
      (fun s hs t ht => hcomparable s (hmet _ hs) t (hmet _ ht))
    refine ⟨⟨q, hq, hull.inOrder_iff⟩, ?_⟩
    intro t ht hstarts hstops
    refine Time.not_crossed ?_ ht hstarts hstops
    rcases List.mem_cons.1 ht with rfl | ht
    · exact ⟨start, stop, hp⟩
    · exact hmade t (hbefore.subset ht)
  · rintro series rfl
    have hsamples : ∀ x ∈ series.samples, Time.IsProper x.time :=
      fun x hx => hproper _ (List.mem_map_of_mem hx)
    obtain ⟨covered, hcovered, htimes, -, hull⟩ := series.exists_covered hsamples
      (fun s hs t ht => hcomparable s (List.mem_append_right _ hs) t (List.mem_append_right _ ht))
    exact ⟨covered, hcovered, htimes, fun q hq => (hull q hq).inOrder_iff⟩

/-- A time open at its start, a template, one open at its end that starts later, and an instant: the
first three cross, the instant brings start and end in order again. -/
theorem widened_inOrder_three :
    let first : Timestamp := { shown := 0, offset := none }
    let second : Timestamp := { shown := 1, offset := none }
    let times : List (Option Time) := [some (.instant .template),
      some (.period ⟨some second, none⟩), some (.instant (.ofTimestamp (some first)))]
    (∃ q, Period.extendAll ⟨none, some first⟩ (times.take 2) = .ok q ∧ ¬ q.InOrder) ∧
      ∃ q, Period.extendAll ⟨none, some first⟩ times = .ok q ∧ q.InOrder := by
  intro first second times
  have hp : make none (some first) = .ok ⟨none, some first⟩ := rfl
  have hmade : ∀ t ∈ times, Time.IsMade t := by
    simp only [times, List.forall_mem_cons]
    exact ⟨trivial, ⟨some second, none, rfl⟩, trivial, List.forall_mem_nil _⟩
  have hcomparable : ∀ s ∈ (some (.period ⟨none, some first⟩) :: times).flatMap Time.timestamps,
      ∀ t ∈ (some (.period ⟨none, some first⟩) :: times).flatMap Time.timestamps,
        s.comparable t = true := by
    decide
  obtain ⟨-, -, hwidened, -⟩ := widened_inOrder_iff hp hmade hcomparable
  constructor
  · obtain ⟨⟨q, hq, hiff⟩, -⟩ := hwidened (times.take 2) (List.take_prefix 2 times)
    refine ⟨q, hq, ?_⟩
    rw [hiff, Classical.not_not]
    exact ⟨by decide, by decide, by decide⟩
  · obtain ⟨⟨q, hq, hiff⟩, hbounded⟩ := hwidened times (List.prefix_refl times)
    refine ⟨q, hq, hiff.2 ?_⟩
    refine hbounded (some (.instant (.ofTimestamp (some first)))) ?_ (by decide) (by decide)
    simp [times]

/-- Two periods that are open on one side each: the one that covers both starts after it ends. -/
theorem extend_crossed :
    let first : Timestamp := { shown := 0, offset := none }
    let second : Timestamp := { shown := Timestamp.nanosPerDay, offset := none }
    ∃ p q r : Period, make none (some first) = .ok p ∧ make (some second) none = .ok q ∧
      (p.extend (some (.period q))).result = .ok r ∧ ¬ r.InOrder := by
  intro first second
  refine ⟨⟨none, some first⟩, ⟨some second, none⟩, ⟨some second, some first⟩, rfl, rfl, rfl, ?_⟩
  intro h
  have hle : second.position ≤ first.position := h second rfl first rfl
  exact absurd hle (by decide)

end Period

end SensorSeries
