import Mathlib.Order.Defs.Unbundled
import SensorSeries.Proofs.Time.Covering

/-!
# The hull of a list of times

A period that is widened by one time after the other starts at the earliest of all the starts that
it has met and ends at the latest of all the ends (`IsHull.extendAll`). A missing bound does not
count, and start and end are found apart from each other.
-/

namespace SensorSeries

/-! ## The earliest and the latest of a list -/

namespace Timestamp

def notAfter (s t : Timestamp) : Prop := s.position ≤ t.position

def notBefore (s t : Timestamp) : Prop := t.position ≤ s.position

instance : IsPreorder Timestamp notAfter where
  refl s := Int.le_refl s.position
  trans _ _ _ hst htu := Int.le_trans hst htu

instance : IsPreorder Timestamp notBefore where
  refl s := Int.le_refl s.position
  trans _ _ _ hst htu := Int.le_trans htu hst

instance : DecidableRel notAfter := fun s t =>
  inferInstanceAs (Decidable (s.position ≤ t.position))

instance : DecidableRel notBefore := fun s t =>
  inferInstanceAs (Decidable (t.position ≤ s.position))

/-- A member of a list that stands in a relation to all the members. Only an empty list may be
without one. -/
def IsExtreme (R : Timestamp → Timestamp → Prop) (ts : List Timestamp) : Option Timestamp → Prop
  | none => ts = []
  | some m => m ∈ ts ∧ ∀ t ∈ ts, R m t

instance (R : Timestamp → Timestamp → Prop) [DecidableRel R] (ts : List Timestamp) :
    DecidablePred (IsExtreme R ts)
  | none => inferInstanceAs (Decidable (ts = []))
  | some m => inferInstanceAs (Decidable (m ∈ ts ∧ ∀ t ∈ ts, R m t))

abbrev IsEarliest := IsExtreme notAfter

abbrev IsLatest := IsExtreme notBefore

/-- What a choice between two timestamps may be: one that is missing does not count, and of two the
one is chosen that stands in the relation to the other. -/
inductive Chosen (R : Timestamp → Timestamp → Prop) :
    Option Timestamp → Option Timestamp → Option Timestamp → Prop
  | onlySecond (t : Option Timestamp) : Chosen R none t t
  | onlyFirst (s : Option Timestamp) : Chosen R s none s
  | first {s t : Timestamp} (h : R s t) : Chosen R (some s) (some t) (some s)
  | second {s t : Timestamp} (h : R t s) : Chosen R (some s) (some t) (some t)

variable {R : Timestamp → Timestamp → Prop} {ts : List Timestamp} {s t r : Option Timestamp}

theorem eq_of_ordered_before? {s t : Timestamp} {b : Bool} (h : ordered (s.before? t) = .ok b) :
    b = decide (s.position < t.position) := by
  rw [ordered_before?] at h
  split at h
  · exact (Except.ok.inj h).symm
  · cases h

theorem chosen_earlier (h : Period.earlier s t = .ok r) : Chosen notAfter s t r := by
  rcases s with _ | s
  · cases h
    exact .onlySecond t
  rcases t with _ | t
  · cases h
    exact .onlyFirst (some s)
  obtain ⟨b, hb, h⟩ := bind_eq_ok.1 h
  obtain rfl := eq_of_ordered_before? hb
  cases h
  by_cases hlt : t.position < s.position
  · rw [if_pos (decide_eq_true hlt)]
    exact .second (Int.le_of_lt hlt)
  · rw [if_neg (by simpa using hlt)]
    exact .first (Int.not_lt.1 hlt)

theorem chosen_later (h : Period.later s t = .ok r) : Chosen notBefore s t r := by
  rcases s with _ | s
  · cases h
    exact .onlySecond t
  rcases t with _ | t
  · cases h
    exact .onlyFirst (some s)
  obtain ⟨b, hb, h⟩ := bind_eq_ok.1 h
  obtain rfl := eq_of_ordered_before? hb
  cases h
  by_cases hlt : s.position < t.position
  · rw [if_pos (decide_eq_true hlt)]
    exact .second (Int.le_of_lt hlt)
  · rw [if_neg (by simpa using hlt)]
    exact .first (Int.not_lt.1 hlt)

theorem IsExtreme.eq_none_iff (h : IsExtreme R ts t) : t = none ↔ ts = [] := by
  cases t with
  | none => exact iff_of_true rfl h
  | some m => exact iff_of_false nofun (List.ne_nil_of_mem h.1)

theorem IsExtreme.mem (h : IsExtreme R ts t) : ∀ m ∈ t, m ∈ ts := by
  rintro m rfl
  exact h.1

/-- The choice between one more timestamp and the extreme of a list is the extreme of them all. -/
theorem IsExtreme.chosen [IsPreorder Timestamp R] (ht : IsExtreme R ts t) (hr : Chosen R s t r) :
    IsExtreme R (ts ++ s.toList) r := by
  cases hr with
  | onlySecond t =>
    rw [Option.toList_none, List.append_nil]
    exact ht
  | onlyFirst s =>
    have hnil : ts = [] := ht
    rw [hnil, List.nil_append]
    cases s with
    | none => rfl
    | some s => simpa [IsExtreme] using refl_of R s
  | @first s t h =>
    refine ⟨List.mem_append_right _ (List.mem_singleton_self s), ?_⟩
    intro u hu
    rcases List.mem_append.1 hu with hu | hu
    · exact trans_of R h (ht.2 u hu)
    · rw [List.mem_singleton.1 hu]
      exact refl_of R s
  | @second s t h =>
    refine ⟨List.mem_append_left _ ht.1, ?_⟩
    intro u hu
    rcases List.mem_append.1 hu with hu | hu
    · exact ht.2 u hu
    · rw [List.mem_singleton.1 hu]
      exact h

/-- Two lists that tell the same instants, by whatever clocks, have the same extreme. -/
theorem IsExtreme.same [IsPreorder Timestamp R] {us : List Timestamp}
    (hR : ∀ s t, s.position = t.position ↔ R s t ∧ R t s) (hs : IsExtreme R ts s)
    (ht : IsExtreme R us t) (hleft : ∀ s ∈ ts, ∃ t ∈ us, s.same t = true)
    (hright : ∀ t ∈ us, ∃ s ∈ ts, s.same t = true)
    (hcomparable : ∀ s ∈ ts, ∀ t ∈ us, s.comparable t = true) :
    Instant.sameTimestamp s t = true := by
  have hposition {a b : Timestamp} (h : a.same b = true) : R a b ∧ R b a := by
    rw [← hR]
    exact beq_iff_eq.1 (Bool.and_eq_true_iff.1 h).2
  rcases s with _ | s
  · rcases t with _ | t
    · rfl
    · obtain ⟨s, hmem, -⟩ := hright t ht.1
      rw [show ts = [] from hs] at hmem
      cases hmem
  rcases t with _ | t
  · obtain ⟨t, hmem, -⟩ := hleft s hs.1
    rw [show us = [] from ht] at hmem
    cases hmem
  · obtain ⟨t', ht', hst'⟩ := hleft s hs.1
    obtain ⟨s', hs', hts'⟩ := hright t ht.1
    have hst : R s t := trans_of R (hs.2 s' hs') (hposition hts').1
    have hts : R t s := trans_of R (ht.2 t' ht') (hposition hst').2
    have hequal : s.position = t.position := (hR s t).2 ⟨hst, hts⟩
    simp [Instant.sameTimestamp, Timestamp.same, hcomparable s hs.1 t ht.1, hequal]

theorem position_eq_iff_notAfter (s t : Timestamp) :
    s.position = t.position ↔ notAfter s t ∧ notAfter t s := by
  unfold notAfter
  omega

theorem position_eq_iff_notBefore (s t : Timestamp) :
    s.position = t.position ↔ notBefore s t ∧ notBefore t s := by
  unfold notBefore
  omega

end Timestamp

/-! ## Bounds of times -/

namespace Time

/-- The timestamp that a time starts at, if it has one. -/
def starts : Option Time → List Timestamp
  | some (.instant i) => i.value.toList
  | some (.period p) => p.start.toList
  | _ => []

def stops : Option Time → List Timestamp
  | some (.instant i) => i.value.toList
  | some (.period p) => p.stop.toList
  | _ => []

theorem starts_subset (t : Option Time) : starts t ⊆ timestamps t := by
  rcases t with _ | i | p | d
  · exact List.Subset.refl _
  · exact List.Subset.refl _
  · exact List.subset_append_left _ _
  · exact List.Subset.refl _

theorem stops_subset (t : Option Time) : stops t ⊆ timestamps t := by
  rcases t with _ | i | p | d
  · exact List.Subset.refl _
  · exact List.Subset.refl _
  · exact List.subset_append_right _ _
  · exact List.Subset.refl _

end Time

namespace Period

open Timestamp (IsEarliest IsLatest)

variable {p q : Period} {starts stops : List Timestamp}

/-- The period from the earliest of some starts to the latest of some ends. -/
structure IsHull (starts stops : List Timestamp) (p : Period) : Prop where
  start : IsEarliest starts p.start
  stop : IsLatest stops p.stop

theorem isHull_self (p : Period) : p.IsHull p.start.toList p.stop.toList := by
  constructor
  · rcases p.start with _ | s
    · rfl
    · exact ⟨List.mem_singleton_self s, by simp [Timestamp.notAfter]⟩
  · rcases p.stop with _ | s
    · rfl
    · exact ⟨List.mem_singleton_self s, by simp [Timestamp.notBefore]⟩

theorem IsHull.cover (hp : p.IsHull starts stops) {start stop : Option Timestamp}
    (h : Attempt.result (p.cover start stop) = .ok q) :
    q.IsHull (starts ++ start.toList) (stops ++ stop.toList) := by
  unfold Period.cover at h
  cases hstart : earlier start p.start with
  | error e => simp [hstart, Attempt.orLeave, Attempt.result] at h
  | ok s =>
    cases hstop : later stop p.stop with
    | error e => simp [hstart, hstop, Attempt.orLeave, Attempt.result] at h
    | ok e =>
      simp only [hstart, hstop, Attempt.orLeave, Attempt.result, ok_bind, pure_eq_ok,
        Except.ok.injEq] at h
      subst h
      exact ⟨hp.start.chosen (Timestamp.chosen_earlier hstart),
        hp.stop.chosen (Timestamp.chosen_later hstop)⟩

theorem IsHull.extend (hp : p.IsHull starts stops) {t : Option Time}
    (h : (p.extend t).result = .ok q) :
    q.IsHull (starts ++ Time.starts t) (stops ++ Time.stops t) := by
  rcases t with _ | i | r | d
  · cases h
    simpa [Time.starts, Time.stops] using hp
  · exact hp.cover h
  · exact hp.cover h
  · cases h

/-- **Widening a period by a list of times gives their hull.** -/
theorem IsHull.extendAll {times : List (Option Time)} (hp : p.IsHull starts stops)
    (h : p.extendAll times = .ok q) :
    q.IsHull (starts ++ times.flatMap Time.starts) (stops ++ times.flatMap Time.stops) := by
  induction times generalizing p starts stops with
  | nil =>
    cases h
    simpa using hp
  | cons t times ih =>
    rw [Period.extendAll, List.foldlM_cons] at h
    obtain ⟨r, hr, h⟩ := bind_eq_ok.1 h
    have hall := ih (hp.extend hr) h
    rwa [List.append_assoc, List.append_assoc] at hall

end Period

end SensorSeries
