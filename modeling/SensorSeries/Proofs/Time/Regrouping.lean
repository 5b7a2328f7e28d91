import Mathlib.Data.List.Forall2
import Mathlib.Tactic.Tauto
import SensorSeries.Proofs.Merge.Contribution
import SensorSeries.Proofs.Time.Validity

/-!
# Hulls of regrouped times

The hull of some times only depends on which times there are. The order in which a period is widened
makes no difference, nor do repetitions, and instead of the times of a group the hull of the group
will do (`IsHull.regroup`). So the time of a series does not depend on the order of its samples, and
the time of two results that are merged is the hull of both their times (`extendAll_regrouped`).
-/

namespace SensorSeries

/-- Whether the timestamps in a list of times can be compared with each other. -/
def Time.Comparable (times : List (Option Time)) : Prop :=
  ∀ s ∈ times.flatMap Time.timestamps, ∀ t ∈ times.flatMap Time.timestamps, s.comparable t = true

theorem Time.Comparable.mono {times others : List (Option Time)} (h : Time.Comparable times)
    (hsub : others.flatMap Time.timestamps ⊆ times.flatMap Time.timestamps) :
    Time.Comparable others :=
  fun s hs t ht => h s (hsub hs) t (hsub ht)

theorem Time.flatMap_timestamps_subset {times others : List (Option Time)} (h : others ⊆ times) :
    others.flatMap Time.timestamps ⊆ times.flatMap Time.timestamps := by
  intro s hs
  obtain ⟨t, ht, hst⟩ := List.mem_flatMap.1 hs
  exact List.mem_flatMap.2 ⟨t, h ht, hst⟩

/-! ## Extremes of groups -/

namespace Timestamp

variable {R : Timestamp → Timestamp → Prop} {ts us : List Timestamp} {s t m : Option Timestamp}

/-- Only the members of a list count. -/
theorem IsExtreme.congr (h : IsExtreme R ts m) (hmem : ∀ t, t ∈ ts ↔ t ∈ us) :
    IsExtreme R us m := by
  cases m with
  | none =>
    obtain rfl : ts = [] := h
    rw [IsExtreme, List.eq_nil_iff_forall_not_mem]
    intro t ht
    cases (hmem t).2 ht
  | some m => exact ⟨(hmem m).1 h.1, fun t ht => h.2 t ((hmem t).2 ht)⟩

variable [IsPreorder Timestamp R]

theorem IsExtreme.unique (hR : ∀ s t, s.position = t.position ↔ R s t ∧ R t s)
    (hs : IsExtreme R ts s) (ht : IsExtreme R ts t)
    (hcomparable : ∀ s ∈ ts, ∀ t ∈ ts, s.comparable t = true) :
    Instant.sameTimestamp s t = true :=
  hs.same hR ht (fun s hs => ⟨s, hs, s.same_refl⟩) (fun t ht => ⟨t, ht, t.same_refl⟩) hcomparable

/-- The extreme of a group stands for the group. -/
theorem IsExtreme.replace {group : List Timestamp} (hgroup : IsExtreme R group s)
    (h : IsExtreme R (s.toList ++ ts) m) : IsExtreme R (group ++ ts) m := by
  cases s with
  | none =>
    obtain rfl : group = [] := hgroup
    exact h
  | some s =>
    cases m with
    | none => cases (h : s :: ts = [])
    | some m =>
      obtain ⟨hmem, hall⟩ := h
      rw [Option.toList_some, List.singleton_append, List.forall_mem_cons] at hall
      refine ⟨?_, ?_⟩
      · rcases List.mem_cons.1 hmem with rfl | hmem
        · exact List.mem_append_left _ hgroup.1
        · exact List.mem_append_right _ hmem
      · intro t ht
        rcases List.mem_append.1 ht with ht | ht
        · exact trans_of R hall.1 (hgroup.2 t ht)
        · exact hall.2 t ht

/-- The extremes of some groups stand for the groups. A bound of the times is looked for, and the
bounds of a period are told by themselves. -/
theorem IsExtreme.regroup {bounds : Option Time → List Timestamp} {bound : Period → Option Timestamp}
    {groups : List (List (Option Time))} {hulls : List Period}
    (hbound : ∀ hull, bounds (some (.period hull)) = (bound hull).toList)
    (hhulls : List.Forall₂ (fun group hull => IsExtreme R (group.flatMap bounds) (bound hull))
      groups hulls)
    (h : IsExtreme R (ts ++ (hulls.map fun hull => some (.period hull)).flatMap bounds) m) :
    IsExtreme R (ts ++ groups.flatten.flatMap bounds) m := by
  induction hhulls generalizing ts with
  | nil => exact h
  | @cons group hull groups hulls hgroup _ ih =>
    rw [List.map_cons, List.flatMap_cons, hbound] at h
    -- The group comes to the front, where its extreme can be replaced, and joins the others.
    have hfront : IsExtreme R ((bound hull).toList ++
        (ts ++ (hulls.map fun hull => some (.period hull)).flatMap bounds)) m := by
      refine h.congr fun t => ?_
      simp only [List.mem_append]
      tauto
    have hjoined : IsExtreme R ((ts ++ group.flatMap bounds) ++
        (hulls.map fun hull => some (.period hull)).flatMap bounds) m := by
      refine (hgroup.replace hfront).congr fun t => ?_
      simp only [List.mem_append]
      tauto
    have hall := ih hjoined
    rwa [List.append_assoc, ← List.flatMap_append, ← List.flatten_cons] at hall

end Timestamp

/-! ## Hulls of groups -/

namespace Period

variable {p q r : Period} {starts stops : List Timestamp} {times others : List (Option Time)}
  {groups : List (List (Option Time))} {hulls : List Period}

theorem IsHull.congr {starts' stops' : List Timestamp} (h : p.IsHull starts stops)
    (hstarts : ∀ t, t ∈ starts ↔ t ∈ starts') (hstops : ∀ t, t ∈ stops ↔ t ∈ stops') :
    p.IsHull starts' stops' :=
  ⟨h.start.congr hstarts, h.stop.congr hstops⟩

/-- The hull of some times is the hull of all lists with these times in them. -/
theorem IsHull.congr_times (h : p.IsHull (times.flatMap Time.starts) (times.flatMap Time.stops))
    (hmem : ∀ t, t ∈ times ↔ t ∈ others) :
    p.IsHull (others.flatMap Time.starts) (others.flatMap Time.stops) := by
  refine h.congr ?_ ?_
  · intro s
    simp only [List.mem_flatMap, hmem]
  · intro s
    simp only [List.mem_flatMap, hmem]

theorem starts_subset_timestamps (times : List (Option Time)) :
    times.flatMap Time.starts ⊆ times.flatMap Time.timestamps := by
  intro s hs
  obtain ⟨t, ht, hst⟩ := List.mem_flatMap.1 hs
  exact List.mem_flatMap.2 ⟨t, ht, Time.starts_subset t hst⟩

theorem stops_subset_timestamps (times : List (Option Time)) :
    times.flatMap Time.stops ⊆ times.flatMap Time.timestamps := by
  intro s hs
  obtain ⟨t, ht, hst⟩ := List.mem_flatMap.1 hs
  exact List.mem_flatMap.2 ⟨t, ht, Time.stops_subset t hst⟩

/-- There is one hull of some times, up to the clocks that tell its bounds. -/
theorem IsHull.unique (hp : p.IsHull (times.flatMap Time.starts) (times.flatMap Time.stops))
    (hq : q.IsHull (times.flatMap Time.starts) (times.flatMap Time.stops))
    (hcomparable : Time.Comparable times) : p.same q = true := by
  have hstarts := starts_subset_timestamps times
  have hstops := stops_subset_timestamps times
  rw [Period.same, Bool.and_eq_true]
  constructor
  · exact hp.start.unique Timestamp.position_eq_iff_notAfter hq.start
      fun s hs t ht => hcomparable s (hstarts hs) t (hstarts ht)
  · exact hp.stop.unique Timestamp.position_eq_iff_notBefore hq.stop
      fun s hs t ht => hcomparable s (hstops hs) t (hstops ht)

/-- **The hull of a group stands for the times of the group.** -/
theorem IsHull.regroup
    (hhulls : List.Forall₂ (fun group hull => hull.IsHull (group.flatMap Time.starts)
      (group.flatMap Time.stops)) groups hulls)
    (hq : q.IsHull (starts ++ (hulls.map fun hull => some (.period hull)).flatMap Time.starts)
      (stops ++ (hulls.map fun hull => some (.period hull)).flatMap Time.stops)) :
    q.IsHull (starts ++ groups.flatten.flatMap Time.starts)
      (stops ++ groups.flatten.flatMap Time.stops) where
  start := hq.start.regroup (fun _ => rfl) (hhulls.imp fun _ _ h => h.start)
  stop := hq.stop.regroup (fun _ => rfl) (hhulls.imp fun _ _ h => h.stop)

theorem extendAll_singleton (p : Period) (t : Option Time) :
    p.extendAll [t] = (p.extend t).result := by
  rw [extendAll, List.foldlM_cons]
  exact bind_pure _

theorem isHull_of_extendAll (h : empty.extendAll times = .ok p) :
    p.IsHull (times.flatMap Time.starts) (times.flatMap Time.stops) :=
  empty.isHull_self.extendAll h

/-- The bounds of a hull are among the timestamps that it covers. -/
theorem IsHull.timestamps_subset
    (h : p.IsHull (times.flatMap Time.starts) (times.flatMap Time.stops)) :
    Time.timestamps (some (.period p)) ⊆ times.flatMap Time.timestamps := by
  intro s hs
  rcases List.mem_append.1 hs with hs | hs
  · exact starts_subset_timestamps times (h.start.mem s (Option.mem_toList.1 hs))
  · exact stops_subset_timestamps times (h.stop.mem s (Option.mem_toList.1 hs))

/-- The times of each group can be covered. -/
theorem exists_hulls (hproper : ∀ t ∈ groups.flatten, Time.IsProper t)
    (hcomparable : Time.Comparable groups.flatten) :
    ∃ hulls, List.Forall₂ (fun group hull => empty.extendAll group = .ok hull) groups hulls := by
  induction groups with
  | nil => exact ⟨[], .nil⟩
  | cons group groups ih =>
    rw [List.flatten_cons] at hproper hcomparable
    obtain ⟨hgroup, hgroups⟩ := List.forall_mem_append.1 hproper
    obtain ⟨hull, hhull⟩ := exists_extendAll hgroup (hcomparable.mono
      (Time.flatMap_timestamps_subset (List.subset_append_left _ _)))
    obtain ⟨hulls, hhulls⟩ := ih hgroups (hcomparable.mono
      (Time.flatMap_timestamps_subset (List.subset_append_right _ _)))
    exact ⟨hull :: hulls, .cons hhull hhulls⟩

theorem hulls_subset
    (hhulls : List.Forall₂ (fun group hull => empty.extendAll group = .ok hull) groups hulls) :
    (hulls.map fun hull => some (Time.period hull)).flatMap Time.timestamps ⊆
      groups.flatten.flatMap Time.timestamps := by
  induction hhulls with
  | nil => exact List.Subset.refl _
  | cons hhull _ ih =>
    rw [List.map_cons, List.flatMap_cons, List.flatten_cons, List.flatMap_append]
    exact List.append_subset.2
      ⟨List.subset_append_of_subset_left _ (isHull_of_extendAll hhull).timestamps_subset,
        List.subset_append_of_subset_right _ ih⟩

/-- A period can be widened by the hulls of groups, and covers all the times in the groups. -/
theorem exists_regrouped (hproper : ∀ t ∈ groups.flatten, Time.IsProper t)
    (hcomparable : Time.Comparable (some (.period p) :: groups.flatten)) :
    ∃ hulls r, List.Forall₂ (fun group hull => empty.extendAll group = .ok hull) groups hulls ∧
      p.extendAll (hulls.map fun hull => some (.period hull)) = .ok r ∧
      r.IsHull ((some (.period p) :: groups.flatten).flatMap Time.starts)
        ((some (.period p) :: groups.flatten).flatMap Time.stops) := by
  obtain ⟨hulls, hhulls⟩ := exists_hulls hproper
    (hcomparable.mono (Time.flatMap_timestamps_subset (List.subset_cons_self _ _)))
  have hperiods : ∀ t ∈ hulls.map fun hull => some (Time.period hull), Time.IsProper t := by
    intro t ht
    obtain ⟨hull, -, rfl⟩ := List.mem_map.1 ht
    trivial
  have hsub : (some (.period p) :: hulls.map fun hull => some (Time.period hull)).flatMap
      Time.timestamps ⊆ (some (.period p) :: groups.flatten).flatMap Time.timestamps := by
    rw [List.flatMap_cons, List.flatMap_cons]
    exact List.append_subset.2 ⟨List.subset_append_left _ _,
      List.subset_append_of_subset_right _ (hulls_subset hhulls)⟩
  obtain ⟨r, hr, hhull⟩ := exists_widened hperiods (hcomparable.mono hsub)
  exact ⟨hulls, r, hhulls, hr, hhull.regroup (hhulls.imp fun _ _ h => isHull_of_extendAll h)⟩

end Period

/-! ## Series -/

namespace Series

variable {s t : Series} {covered other : Option Period}

/-- Whether there is a time that covers a series, and it is the hull of its samples. -/
structure IsCovered (s : Series) (covered : Option Period) : Prop where
  time : s.phenomenonTime = .ok covered
  none_iff : covered = none ↔ s.samples = []
  hull : ∀ p ∈ covered, p.IsHull ((s.samples.map (·.time)).flatMap Time.starts)
    ((s.samples.map (·.time)).flatMap Time.stops)

theorem exists_isCovered (hproper : ∀ x ∈ s.samples, Time.IsProper x.time)
    (hcomparable : Time.Comparable (s.samples.map (·.time))) : ∃ covered, s.IsCovered covered := by
  obtain ⟨covered, htime, -, hnone, hhull⟩ := s.exists_covered hproper hcomparable
  exact ⟨covered, htime, hnone, hhull⟩

/-- Series with the same times have the same hull. -/
theorem IsCovered.same (hs : s.IsCovered covered) (ht : t.IsCovered other)
    (hcomparable : Time.Comparable (s.samples.map (·.time)))
    (hmem : ∀ x, x ∈ s.samples.map (·.time) ↔ x ∈ t.samples.map (·.time)) :
    sameOption Period.same covered other = true := by
  have hempty : s.samples = [] ↔ t.samples = [] := by
    rw [← List.map_eq_nil_iff (f := Sample.time), ← List.map_eq_nil_iff (f := Sample.time),
      List.eq_nil_iff_forall_not_mem, List.eq_nil_iff_forall_not_mem]
    simp only [hmem]
  rcases covered with _ | p
  · rw [ht.none_iff.2 (hempty.1 (hs.none_iff.1 rfl))]
    rfl
  rcases other with _ | q
  · cases hs.none_iff.2 (hempty.2 (ht.none_iff.1 rfl))
  · exact (hs.hull p rfl).unique ((ht.hull q rfl).congr_times fun x => (hmem x).symm) hcomparable

theorem IsCovered.isHull_getD (h : s.IsCovered covered) :
    (covered.getD .empty).IsHull ((s.samples.map (·.time)).flatMap Time.starts)
      ((s.samples.map (·.time)).flatMap Time.stops) := by
  cases covered with
  | none =>
    rw [h.none_iff.1 rfl]
    exact Period.empty.isHull_self
  | some p => exact h.hull p rfl

/-- The hull of a series is the hull of its first samples, widened by the hull of the others. -/
theorem IsCovered.append {xs ys : List Sample} {first second : Option Period} {u v w : UnitOfMeasure}
    (hs : IsCovered ⟨u, xs ++ ys⟩ covered) (hfirst : IsCovered ⟨v, xs⟩ first)
    (hsecond : IsCovered ⟨w, ys⟩ second) (hne : xs ++ ys ≠ [])
    (hcomparable : Time.Comparable ((xs ++ ys).map (·.time))) :
    ∃ r, ((first.getD .empty).extend (second.map .period)).result = .ok r ∧
      sameOption Period.same covered (some r) = true := by
  obtain ⟨p, rfl⟩ : ∃ p, covered = some p := by
    rw [← Option.ne_none_iff_exists']
    exact fun h => hne (hs.none_iff.1 h)
  have hbase := hfirst.isHull_getD
  suffices hhull : ∃ r, ((first.getD .empty).extend (second.map .period)).result = .ok r ∧
      r.IsHull (((xs ++ ys).map (·.time)).flatMap Time.starts)
        (((xs ++ ys).map (·.time)).flatMap Time.stops) by
    obtain ⟨r, hr, hhull⟩ := hhull
    exact ⟨r, hr, (hs.hull p rfl).unique hhull hcomparable⟩
  cases second with
  | none =>
    obtain rfl : ys = [] := hsecond.none_iff.1 rfl
    rw [List.append_nil]
    exact ⟨_, rfl, hbase⟩
  | some q =>
    have hq := hsecond.hull q rfl
    have hbounds : [some (Time.period (first.getD .empty)), some (.period q)].flatMap
        Time.timestamps ⊆ ((xs ++ ys).map (·.time)).flatMap Time.timestamps := by
      rw [List.map_append, List.flatMap_append, List.flatMap_cons, List.flatMap_singleton]
      exact List.append_subset.2
        ⟨List.subset_append_of_subset_left _ hbase.timestamps_subset,
          List.subset_append_of_subset_right _ hq.timestamps_subset⟩
    have hproper : ∀ t ∈ [some (Time.period q)], Time.IsProper t :=
      List.forall_mem_singleton.2 trivial
    obtain ⟨r, hr, hhull⟩ := Period.exists_widened hproper (hcomparable.mono hbounds)
    rw [Period.extendAll_singleton] at hr
    refine ⟨r, hr, ?_⟩
    -- The hull of the others stands for them, and then the first hull for the first samples.
    have hsecond : List.Forall₂ (fun group hull => hull.IsHull (group.flatMap Time.starts)
        (group.flatMap Time.stops)) [ys.map (·.time)] [q] := .cons hq .nil
    have hothers := Period.IsHull.regroup hsecond hhull
    rw [List.flatten_singleton] at hothers
    rw [List.map_append, List.flatMap_append, List.flatMap_append]
    exact ⟨hbase.start.replace hothers.start, hbase.stop.replace hothers.stop⟩

end Series

namespace Period

open Result (contribution)

/-- **The hull of times does not depend on their order.** A period that is widened by some times one
after the other starts at the earliest of its own start and all of theirs, and ends at the latest of
the ends. It is the same if the times come in another order, repeatedly, or in groups for which their
hulls are taken. So the time of a series, which is missing only if it has no samples, does not depend
on their order, and the time of two results that have been merged is that of the first, widened by
that of the second; a result without samples adds nothing. -/
theorem extendAll_regrouped {p : Period} {times : List (Option Time)}
    (hproper : ∀ t ∈ times, Time.IsProper t)
    (hcomparable : Time.Comparable (some (.period p) :: times)) :
    ∃ q, p.extendAll times = .ok q ∧
      q.IsHull (p.start.toList ++ times.flatMap Time.starts)
        (p.stop.toList ++ times.flatMap Time.stops) ∧
      (∀ groups : List (List (Option Time)), (∀ t, t ∈ groups.flatten ↔ t ∈ times) →
        (∃ r, p.extendAll groups.flatten = .ok r ∧ r.same q = true) ∧
        ∃ hulls r, List.Forall₂ (fun group hull => empty.extendAll group = .ok hull) groups hulls ∧
          p.extendAll (hulls.map fun hull => some (.period hull)) = .ok r ∧ r.same q = true) ∧
      (∀ s t : Series, s.samples.map (·.time) = times → (∀ x, x ∈ s.samples ↔ x ∈ t.samples) →
        ∃ covered other, s.IsCovered covered ∧ t.phenomenonTime = .ok other ∧
          sameOption Period.same covered other = true) ∧
      ∀ a b : Option Result, (∀ x ∈ a, x.IsPlain) → (∀ x ∈ b, x.IsPlain) →
        ((contribution a).samples ++ (contribution b).samples).map (·.time) = times →
        ∃ merged covered first second, Series.merge a b = .ok merged ∧
          merged.IsCovered covered ∧ (contribution a).IsCovered first ∧
          (contribution b).IsCovered second ∧
          (covered = none ↔ first = none ∧ second = none) ∧
          (first = none → sameOption Period.same covered second = true) ∧
          (second = none → sameOption Period.same covered first = true) ∧
          ∀ r ∈ covered, ∃ widened,
            ((first.getD .empty).extend (second.map .period)).result = .ok widened ∧
              r.same widened = true := by
  obtain ⟨q, hq, hhull⟩ := exists_widened hproper hcomparable
  refine ⟨q, hq, hhull, ?_, ?_, ?_⟩
  · intro groups hmem
    have hcons (t : Option Time) :
        t ∈ some (.period p) :: groups.flatten ↔ t ∈ some (.period p) :: times := by
      rw [List.mem_cons, List.mem_cons, hmem]
    have hgroups : ∀ t ∈ groups.flatten, Time.IsProper t := fun t ht => hproper t ((hmem t).1 ht)
    have hcompared : Time.Comparable (some (.period p) :: groups.flatten) :=
      hcomparable.mono (Time.flatMap_timestamps_subset fun t ht => (hcons t).1 ht)
    constructor
    · obtain ⟨r, hr, hall⟩ := exists_widened hgroups hcompared
      exact ⟨r, hr, (hall.congr_times hcons).unique hhull hcomparable⟩
    · obtain ⟨hulls, r, hhulls, hr, hall⟩ := exists_regrouped hgroups hcompared
      exact ⟨hulls, r, hhulls, hr, (hall.congr_times hcons).unique hhull hcomparable⟩
  · rintro s t rfl hmem
    have htimes : Time.Comparable (s.samples.map (·.time)) :=
      hcomparable.mono (Time.flatMap_timestamps_subset (List.subset_cons_self _ _))
    have hmap (x : Option Time) : x ∈ s.samples.map (·.time) ↔ x ∈ t.samples.map (·.time) := by
      simp only [List.mem_map, hmem]
    have hs : ∀ x ∈ s.samples, Time.IsProper x.time :=
      fun x hx => hproper _ (List.mem_map_of_mem hx)
    obtain ⟨covered, hcovered⟩ := Series.exists_isCovered hs htimes
    obtain ⟨other, hother⟩ := Series.exists_isCovered (s := t)
      (fun x hx => hs x ((hmem x).2 hx))
      (htimes.mono (Time.flatMap_timestamps_subset fun x hx => (hmap x).2 hx))
    exact ⟨covered, other, hcovered, hother.time, hcovered.same hother htimes hmap⟩
  · rintro a b ha hb rfl
    have htimes := hcomparable.mono (Time.flatMap_timestamps_subset (List.subset_cons_self _ _))
    have hall : ∀ x ∈ (contribution a).samples ++ (contribution b).samples,
        Time.IsProper x.time := fun x hx => hproper _ (List.mem_map_of_mem hx)
    obtain ⟨hproperA, hproperB⟩ := List.forall_mem_append.1 hall
    have hsub {xs : List Sample} (h : xs ⊆ (contribution a).samples ++ (contribution b).samples) :
        Time.Comparable (xs.map (·.time)) :=
      htimes.mono (Time.flatMap_timestamps_subset (List.map_subset _ h))
    obtain ⟨covered, hcovered⟩ := Series.exists_isCovered
      (s := (contribution a).combine (contribution b)) hall htimes
    obtain ⟨first, hfirst⟩ := Series.exists_isCovered hproperA
      (hsub (List.subset_append_left _ _))
    obtain ⟨second, hsecond⟩ := Series.exists_isCovered hproperB
      (hsub (List.subset_append_right _ _))
    refine ⟨_, covered, first, second, Series.merge_eq_ok ha hb, hcovered, hfirst, hsecond,
      ?_, ?_, ?_, ?_⟩
    · rw [hcovered.none_iff, hfirst.none_iff, hsecond.none_iff]
      exact List.append_eq_nil_iff
    · intro hnone
      refine hcovered.same hsecond htimes fun x => ?_
      simp [Series.combine, hfirst.none_iff.1 hnone]
    · intro hnone
      refine hcovered.same hfirst htimes fun x => ?_
      simp [Series.combine, hsecond.none_iff.1 hnone]
    · rintro r rfl
      have hne : (contribution a).samples ++ (contribution b).samples ≠ [] := by
        intro hnil
        cases hcovered.none_iff.2 hnil
      obtain ⟨widened, hwidened, hsame⟩ := hcovered.append hfirst hsecond hne htimes
      exact ⟨widened, hwidened, hsame⟩

/-- An instant, a time that is open at its end, one that is missing and one without a timestamp, in
groups and with repetitions; and a placeholder that is merged with a series of such samples. -/
theorem extendAll_regrouped_open :
    let clock (n : Int) : Timestamp := { shown := n, offset := none }
    let instant : Option Time := some (.instant (.ofTimestamp (some (clock 3))))
    let opened : Option Time := some (.period ⟨some (clock 1), none⟩)
    let vague : Option Time := some (.instant .template)
    let placeholder : Result := .single ⟨instant, some (.nil .missing)⟩
    let series : Series := ⟨.missing, [instant, opened, none, vague].map fun t => ⟨t, none⟩⟩
    (∃ hulls r, List.Forall₂ (fun group hull => empty.extendAll group = .ok hull)
        [[vague, opened, vague], [], [instant, none, opened]] hulls ∧
      extendAll ⟨none, some (clock 2)⟩ (hulls.map fun hull => some (.period hull)) = .ok r ∧
      r.same ⟨some (clock 1), some (clock 3)⟩ = true) ∧
    ∃ merged covered second, Series.merge (some placeholder) (some (.ofSeries series)) = .ok merged ∧
      merged.IsCovered covered ∧ (contribution (some (.ofSeries series))).IsCovered second ∧
      sameOption Period.same covered second = true := by
  intro clock instant opened vague placeholder series
  have hproper : ∀ t ∈ [instant, opened, none, vague], Time.IsProper t := by
    simp only [List.forall_mem_cons]
    exact ⟨trivial, trivial, trivial, trivial, List.forall_mem_nil _⟩
  have hcomparable : Time.Comparable
      (some (.period ⟨none, some (clock 2)⟩) :: [instant, opened, none, vague]) := by
    unfold Time.Comparable
    decide
  obtain ⟨q, hq, -, hgroups, -, hmerge⟩ := extendAll_regrouped hproper hcomparable
  cases hq
  constructor
  · have hmem (t : Option Time) : t ∈ [[vague, opened, vague], [], [instant, none, opened]].flatten ↔
        t ∈ [instant, opened, none, vague] := by
      simp only [List.flatten_cons, List.flatten_nil, List.cons_append, List.nil_append,
        List.mem_cons, List.not_mem_nil, or_false]
      tauto
    exact (hgroups _ hmem).2
  · have hplaceholder : ∀ x ∈ some placeholder, x.IsPlain := by
      rintro _ ⟨⟩ v ⟨⟩
      trivial
    have hseries : ∀ x ∈ some (Result.ofSeries series), x.IsPlain := by
      rintro _ ⟨⟩
      trivial
    obtain ⟨merged, covered, first, second, hmerged, hcovered, hfirst, hsecond, -, hadds, -⟩ :=
      hmerge _ _ hplaceholder hseries rfl
    exact ⟨merged, covered, second, hmerged, hcovered, hsecond, hadds (hfirst.none_iff.2 rfl)⟩

end Period

end SensorSeries
