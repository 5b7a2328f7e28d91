import SensorSeries.Merge.Basic
import SensorSeries.Proofs.Answers

/-!
# The later of two result times

Seen from `Instant.latest`, a result time has one of three standings: it does not count, it counts
but has no timestamp, or it has one. One standing may be `below` another, and `latest` takes the
second instant if the first is below it (`latest_eq`). It fails only for two timestamps whose clocks
cannot be compared. Bracketing makes no difference (`latest_assoc`), not even to whether there is a
failure: the instant that is taken keeps the clock of the one that is not.
-/

namespace SensorSeries

/-- What a result time is worth when the later of two is sought. -/
inductive Standing where
  | unset
  | vague
  | dated (t : Timestamp)

namespace Standing

/-- The standing of a result time: a missing instant counts as little as an unset one. -/
def of : Option Instant → Standing
  | none => .unset
  | some i =>
    match i.value with
    | some t => .dated t
    | none => if i.isSet then .vague else .unset

/-- Timestamps stand above all else, in their order. -/
def below : Standing → Standing → Bool
  | .unset, .unset => false
  | .unset, _ => true
  | .vague, .dated _ => true
  | .dated s, .dated t => decide (s.position < t.position)
  | _, _ => false

/-- Whether two standings can be compared: only the clocks of two timestamps can differ. -/
def compares : Standing → Standing → Bool
  | .dated s, .dated t => s.comparable t
  | _, _ => true

@[simp] theorem of_none : of none = .unset := rfl

@[simp] theorem below_unset (x : Standing) : x.below .unset = false := by
  cases x <;> rfl

@[simp] theorem unset_compares (x : Standing) : compares .unset x = true := rfl

theorem compares_comm (x y : Standing) : x.compares y = y.compares x := by
  cases x <;> cases y <;> simp [compares, Timestamp.comparable, Bool.beq_comm]

theorem below_trans {x y z : Standing} (hxy : x.below y = true) (hyz : y.below z = true) :
    x.below z = true := by
  cases x <;> cases y <;> cases z <;> simp_all [below]
  omega

/-- A standing that is at least another, which is at least a third, is at least the third. -/
theorem not_below_trans {x y z : Standing} (hxy : x.below y = false) (hyz : y.below z = false) :
    x.below z = false := by
  cases x <;> cases y <;> cases z <;> simp_all [below]
  omega

theorem not_below_of_below {x y : Standing} (h : x.below y = true) : y.below x = false := by
  cases x <;> cases y <;> simp_all [below]
  omega

/-- A standing can be compared with all that one of the same clock can that is not below it. -/
theorem compares_of_not_below {x y z : Standing} (hxy : x.compares y = true)
    (hyx : y.below x = false) (hyz : y.compares z = true) : x.compares z = true := by
  cases x with
  | unset => rfl
  | vague => rfl
  | dated s =>
    cases y with
    | unset | vague => cases hyx
    | dated t =>
      cases z with
      | unset => rfl
      | vague => rfl
      | dated u =>
        simp only [compares, Timestamp.comparable, beq_iff_eq] at hxy hyz ⊢
        exact hxy.trans hyz

end Standing

theorem Timestamp.ordered_before? (s t : Timestamp) :
    ordered (s.before? t) = if s.comparable t then
      .ok (decide (s.position < t.position)) else .error .unorderable := by
  unfold Timestamp.before?
  split <;> rfl

namespace Instant

open Standing (of)

theorem of_eq_unset {i : Instant} (h : i.isSet = false) : of (some i) = .unset := by
  rcases i with ⟨_ | t, _ | w, _ | r⟩ <;> simp_all [isSet, of]

theorem unset_below {i : Instant} (h : i.isSet = true) :
    Standing.unset.below (of (some i)) = true := by
  rcases i with ⟨_ | t, w, r⟩
  · simp [of, h, Standing.below]
  · rfl

/-- Of two instants that count, one lies before the other when it stands below it. -/
theorem isBefore_eq {s t : Instant} (hs : s.isSet = true) (ht : t.isSet = true) :
    s.isBefore t = if (of (some s)).compares (of (some t)) then
      .ok ((of (some s)).below (of (some t))) else .error .unorderable := by
  rcases s with ⟨_ | u, i, r⟩ <;> rcases t with ⟨_ | v, j, q⟩
  · simp [isBefore, of, hs, ht, Standing.compares, Standing.below]
  · simp [isBefore, of, hs, Standing.compares, Standing.below]
  · simp [isBefore, of, ht, Standing.compares, Standing.below]
  · exact Timestamp.ordered_before? u v

/-- The instant that stands above the other, the left one if neither does. -/
def higher (a b : Option Instant) : Option Instant :=
  if (of a).below (of b) then b else a

theorem latest_eq (a b : Option Instant) :
    latest a b =
      if (of a).compares (of b) then .ok (higher a b) else .error .unorderable := by
  cases b with
  | none => cases a <;> simp [latest, higher, Standing.compares_comm _ .unset]
  | some t =>
    cases ht : t.isSet with
    | false =>
      cases a <;> simp [latest, higher, ht, of_eq_unset ht, Standing.compares_comm _ .unset]
    | true =>
      cases a with
      | none => simp [latest, higher, ht, unset_below ht]
      | some s =>
        cases hs : s.isSet with
        | false => simp [latest, higher, hs, ht, of_eq_unset hs, unset_below ht]
        | true =>
          simp only [latest, hs, ht, isBefore_eq hs ht, Bool.and_self, ↓reduceIte]
          split <;> simp [higher]

theorem higher_assoc (a b c : Option Instant) :
    higher (higher a b) c = higher a (higher b c) := by
  unfold higher
  cases hab : (of a).below (of b) <;> cases hbc : (of b).below (of c)
  · simp [hab, Standing.not_below_trans hab hbc]
  · simp
  · simp [hab, hbc]
  · simp [hbc, Standing.below_trans hab hbc]

/-- Whatever can be compared with the higher of two instants can be compared with both. -/
theorem compares_higher {a b : Option Instant} (c : Option Instant)
    (hab : (of a).compares (of b) = true) :
    (of (higher a b)).compares (of c) = ((of a).compares (of c) && (of b).compares (of c)) := by
  rw [Bool.eq_iff_iff, Bool.and_eq_true]
  unfold higher
  cases hlt : (of a).below (of b) with
  | true =>
    have hba := Standing.not_below_of_below hlt
    exact ⟨fun h => ⟨Standing.compares_of_not_below hab hba h, h⟩, And.right⟩
  | false =>
    rw [Standing.compares_comm] at hab
    exact ⟨fun h => ⟨h, Standing.compares_of_not_below hab hlt h⟩, And.left⟩

theorem compares_higher_right {b c : Option Instant} (a : Option Instant)
    (hbc : (of b).compares (of c) = true) :
    (of a).compares (of (higher b c)) = ((of a).compares (of b) && (of a).compares (of c)) := by
  rw [Standing.compares_comm, compares_higher a hbc, Standing.compares_comm (of b),
    Standing.compares_comm (of c)]

/-- The later of three result times does not depend on the bracketing. -/
theorem latest_assoc (a b c : Option Instant) :
    (do latest (← latest a b) c) = (do latest a (← latest b c)) := by
  cases hab : (of a).compares (of b) <;> cases hbc : (of b).compares (of c)
  · simp [latest_eq, hab, hbc]
  · simp [latest_eq, hab, hbc, compares_higher_right a hbc]
  · simp [latest_eq, hab, hbc, compares_higher c hab]
  · simp [latest_eq, hab, hbc, compares_higher c hab, compares_higher_right a hbc, higher_assoc]

end Instant

end SensorSeries
