import SensorSeries.Proofs.Time.Latest

/-!
# Covering times

The period that covers a list of times exists if the timestamps in them can be compared with each
other (`exists_extendAll`). Timestamps can be compared if their clocks are of one kind, and the
bounds of the period are always timestamps of that kind: that is what widening it preserves.
-/

namespace SensorSeries

/-- The timestamps in a time. A missing time has none, and neither has a datum that is no time. -/
def Time.timestamps : Option Time → List Timestamp
  | some (.instant i) => i.value.toList
  | some (.period p) => p.start.toList ++ p.stop.toList
  | _ => []

/-- Whether a time is missing, an instant or a period, and not a mere datum. -/
def Time.IsProper : Option Time → Prop
  | some (.other _) => False
  | _ => True

namespace Timestamp

/-- A timestamp, if there is one, of a clock that tells its distance from universal time, or does
not. -/
def OfKind (aware : Bool) (t : Option Timestamp) : Prop := ∀ s ∈ t, s.isAware = aware

/-- Timestamps that can be compared with each other are of one kind. -/
theorem exists_kind {ts : List Timestamp} (h : ∀ s ∈ ts, ∀ t ∈ ts, s.comparable t = true) :
    ∃ aware, ∀ t ∈ ts, t.isAware = aware := by
  cases ts with
  | nil => exact ⟨true, nofun⟩
  | cons s ts =>
    refine ⟨s.isAware, ?_⟩
    intro t ht
    have hcomparable := h s List.mem_cons_self t ht
    simp only [comparable, beq_iff_eq] at hcomparable
    exact hcomparable.symm

theorem exists_before {s t : Timestamp} (h : s.isAware = t.isAware) :
    ∃ b, ordered (s.before? t) = .ok b := by
  have hcomparable : s.comparable t = true := by
    rw [comparable, h, beq_self_eq_true]
  rw [ordered_before?, if_pos hcomparable]
  exact ⟨_, rfl⟩

end Timestamp

namespace Period

open Timestamp (OfKind)

variable {aware : Bool}

/-- The earlier of two timestamps of one kind is one of them. -/
theorem exists_earlier {s t : Option Timestamp} (hs : OfKind aware s) (ht : OfKind aware t) :
    ∃ r, earlier s t = .ok r ∧ OfKind aware r := by
  cases s with
  | none => exact ⟨t, rfl, ht⟩
  | some s =>
    cases t with
    | none => exact ⟨some s, rfl, hs⟩
    | some t =>
      have hsame : t.isAware = s.isAware := (ht t rfl).trans (hs s rfl).symm
      obtain ⟨b, hb⟩ := Timestamp.exists_before hsame
      refine ⟨some (if b then t else s), by simp [earlier, hb], ?_⟩
      cases b with
      | true => exact ht
      | false => exact hs

theorem exists_later {s t : Option Timestamp} (hs : OfKind aware s) (ht : OfKind aware t) :
    ∃ r, later s t = .ok r ∧ OfKind aware r := by
  cases s with
  | none => exact ⟨t, rfl, ht⟩
  | some s =>
    cases t with
    | none => exact ⟨some s, rfl, hs⟩
    | some t =>
      have hsame : s.isAware = t.isAware := (hs s rfl).trans (ht t rfl).symm
      obtain ⟨b, hb⟩ := Timestamp.exists_before hsame
      refine ⟨some (if b then t else s), by simp [later, hb], ?_⟩
      cases b with
      | true => exact ht
      | false => exact hs

/-- Whether the bounds of a period are of one kind. -/
structure OfOneKind (aware : Bool) (p : Period) : Prop where
  start : OfKind aware p.start
  stop : OfKind aware p.stop

theorem exists_cover {p : Period} {start stop : Option Timestamp} (hp : p.OfOneKind aware)
    (hstart : OfKind aware start) (hstop : OfKind aware stop) :
    ∃ q, p.cover start stop = .ok q ∧ q.OfOneKind aware := by
  obtain ⟨s, hs, hs'⟩ := exists_earlier hstart hp.start
  obtain ⟨t, ht, ht'⟩ := exists_later hstop hp.stop
  refine ⟨⟨s, t⟩, ?_, hs', ht'⟩
  simp [cover, hs, ht, Attempt.orLeave]

theorem exists_extend {p : Period} {t : Option Time} (hp : p.OfOneKind aware)
    (hproper : Time.IsProper t) (ht : ∀ s ∈ Time.timestamps t, s.isAware = aware) :
    ∃ q, (p.extend t).result = .ok q ∧ q.OfOneKind aware := by
  rcases t with _ | i | q | d
  · exact ⟨p, rfl, hp⟩
  · have hi : OfKind aware i.value := fun s hs => ht s (Option.mem_toList.2 hs)
    obtain ⟨r, hr, hr'⟩ := exists_cover hp hi hi
    exact ⟨r, by rw [extend, hr]; rfl, hr'⟩
  · have hstart : OfKind aware q.start := fun s hs =>
      ht s (List.mem_append_left _ (Option.mem_toList.2 hs))
    have hstop : OfKind aware q.stop := fun s hs =>
      ht s (List.mem_append_right _ (Option.mem_toList.2 hs))
    obtain ⟨r, hr, hr'⟩ := exists_cover hp hstart hstop
    exact ⟨r, by rw [extend, hr]; rfl, hr'⟩
  · exact hproper.elim

/-- Widening a period goes through a whole list of times of one kind. -/
theorem OfOneKind.exists_extendAll {p : Period} {times : List (Option Time)}
    (hp : p.OfOneKind aware) (hproper : ∀ t ∈ times, Time.IsProper t)
    (htimes : ∀ s ∈ times.flatMap Time.timestamps, s.isAware = aware) :
    ∃ q, p.extendAll times = .ok q := by
  induction times generalizing p with
  | nil => exact ⟨p, rfl⟩
  | cons t times ih =>
    rw [List.flatMap_cons] at htimes
    obtain ⟨ht, htimes⟩ := List.forall_mem_append.1 htimes
    obtain ⟨hfirst, hproper⟩ := List.forall_mem_cons.1 hproper
    -- The widened period is of the same kind, so the other times can be covered as well.
    obtain ⟨q, hq, hq'⟩ := exists_extend hp hfirst ht
    obtain ⟨r, hr⟩ := ih hq' hproper htimes
    refine ⟨r, ?_⟩
    rw [extendAll, List.foldlM_cons, hq, ok_bind]
    exact hr

/-- **The times of a list can be covered** if their timestamps can be compared with each other. -/
theorem exists_extendAll {times : List (Option Time)} (hproper : ∀ t ∈ times, Time.IsProper t)
    (h : ∀ s ∈ times.flatMap Time.timestamps, ∀ t ∈ times.flatMap Time.timestamps,
      s.comparable t = true) :
    ∃ p, Period.empty.extendAll times = .ok p := by
  obtain ⟨aware, htimes⟩ := Timestamp.exists_kind h
  have hempty : Period.empty.OfOneKind aware := ⟨nofun, nofun⟩
  exact hempty.exists_extendAll hproper htimes

end Period

end SensorSeries
