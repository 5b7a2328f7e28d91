import SensorSeries.Failure

/-!
# Attempts

A change of a state that may fail halfway. An attempt that stops keeps what it has changed so far,
so that the state it leaves can be told apart from the state it started with.
-/

namespace SensorSeries

/-- An attempt that stopped: why, and the state it left. -/
structure Stopped (σ : Type) where
  cause : Failure
  left : σ

abbrev Attempt (σ : Type) := Except (Stopped σ) σ

namespace Attempt

variable {σ : Type}

/-- The state after the attempt, whether it stopped or not. -/
def state : Attempt σ → σ
  | .ok s => s
  | .error stopped => stopped.left

def failure? : Attempt σ → Option Failure
  | .ok _ => none
  | .error stopped => some stopped.cause

/-- The new state of an attempt that went through. -/
def result : Attempt σ → Except Failure σ
  | .ok s => .ok s
  | .error stopped => .error stopped.cause

/-- Stops with a state if a step fails. -/
def orLeave {α : Type} (left : σ) : Except Failure α → Except (Stopped σ) α
  | .ok a => .ok a
  | .error cause => .error ⟨cause, left⟩

@[simp] theorem result_ok (s : σ) : result (.ok s) = .ok s := rfl

@[simp] theorem result_error (stopped : Stopped σ) : result (.error stopped) = .error stopped.cause :=
  rfl

@[simp] theorem state_ok (s : σ) : state (.ok s : Attempt σ) = s := rfl

@[simp] theorem state_error (stopped : Stopped σ) :
    state (.error stopped : Attempt σ) = stopped.left := rfl

theorem orLeave_eq_ok {α : Type} {left : σ} {x : Except Failure α} {a : α} :
    orLeave left x = .ok a ↔ x = .ok a := by
  cases x <;> simp [orLeave]

/-- A step that fails tells why, and leaves what it was told to. -/
theorem orLeave_eq_error {α : Type} {left : σ} {x : Except Failure α} {stopped : Stopped σ} :
    orLeave left x = .error stopped ↔ ∃ cause, x = .error cause ∧ stopped = ⟨cause, left⟩ := by
  cases x <;> simp [orLeave, eq_comm]

theorem result_eq_ok {a : Attempt σ} {s : σ} : result a = .ok s ↔ a = .ok s := by
  cases a <;> simp [result]

theorem result_orLeave (left : σ) (x : Except Failure σ) : result (orLeave left x) = x := by
  cases x <;> rfl

theorem result_orLeave_bind {α : Type} (left : σ) (x : Except Failure α)
    (f : α → Except (Stopped σ) σ) :
    result (orLeave left x >>= f : Except (Stopped σ) σ) = x >>= fun a => result (f a) := by
  cases x <;> rfl

@[simp] theorem failure?_eq_none_iff {a : Attempt σ} : a.failure? = none ↔ a = .ok a.state := by
  cases a <;> simp [failure?, state]

end Attempt

end SensorSeries
