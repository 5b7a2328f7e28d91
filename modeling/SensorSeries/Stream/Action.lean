import SensorSeries.Failure
import SensorSeries.Journal

/-!
# Actions

An action works on a state. It may change the state, write to the journal, and fail; what it has
changed and written before it fails stays. `zoom` lets an action on a part of a state act on the
whole.
-/

namespace SensorSeries

structure Outcome (σ α : Type) where
  answer : Except Failure α
  state : σ
  journal : List JournalEntry := []

def Action (σ α : Type) := σ → Outcome σ α

namespace Action

variable {σ τ α β : Type}

def run (x : Action σ α) (s : σ) : Outcome σ α := x s

def pure (a : α) : Action σ α := fun s => { answer := .ok a, state := s }

def bind (x : Action σ α) (f : α → Action σ β) : Action σ β := fun s =>
  let first := x s
  match first.answer with
  | .error e => { answer := .error e, state := first.state, journal := first.journal }
  | .ok a =>
    let second := f a first.state
    { second with journal := first.journal ++ second.journal }

instance : Monad (Action σ) where
  pure := pure
  bind := bind

def fail (e : Failure) : Action σ α := fun s => { answer := .error e, state := s }

/-- The answer of something that does not touch the state. -/
def lift (a : Except Failure α) : Action σ α := fun s => { answer := a, state := s }

def get : Action σ σ := fun s => { answer := .ok s, state := s }

def modify (f : σ → σ) : Action σ Unit := fun s => { answer := .ok (), state := f s }

/-- Writes to the journal. -/
def note (e : JournalEntry) : Action σ Unit := fun s =>
  { answer := .ok (), state := s, journal := [e] }

/-- Goes on with another action if the first one fails. -/
def orElse (x : Action σ α) (recover : Failure → Action σ α) : Action σ α := fun s =>
  let first := x s
  match first.answer with
  | .ok a => { answer := .ok a, state := first.state, journal := first.journal }
  | .error e =>
    let second := recover e first.state
    { second with journal := first.journal ++ second.journal }

/-- Takes the failure of an action as an answer. -/
def attempt (x : Action σ α) : Action σ (Except Failure α) := fun s =>
  let first := x s
  { answer := .ok first.answer, state := first.state, journal := first.journal }

/-- Lets an action on a part act on the whole. -/
def zoom (part : τ → σ) (put : σ → τ → τ) (x : Action σ α) : Action τ α := fun t =>
  let inner := x (part t)
  { answer := inner.answer, state := put inner.state t, journal := inner.journal }

def onFirst (x : Action σ α) : Action (σ × τ) α := zoom (·.1) (fun s t => (s, t.2)) x

def onSecond (x : Action τ α) : Action (σ × τ) α := zoom (·.2) (fun t s => (s.1, t)) x

/-! ## Laws -/

@[simp] theorem run_pure (a : α) (s : σ) :
    (Pure.pure a : Action σ α).run s = { answer := .ok a, state := s } := rfl

theorem run_bind (x : Action σ α) (f : α → Action σ β) (s : σ) :
    (x >>= f).run s =
      match (x.run s).answer with
      | .error e => { answer := .error e, state := (x.run s).state, journal := (x.run s).journal }
      | .ok a =>
        { (f a).run (x.run s).state with
          journal := (x.run s).journal ++ ((f a).run (x.run s).state).journal } := rfl

end Action

end SensorSeries
