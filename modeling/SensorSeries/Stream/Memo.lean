import SensorSeries.Stream.Action

/-!
# Memos

A memo holds a value that is computed when it is first asked for. Every value is kept, one that says
"there is none" as well; a computation that fails leaves the memo as it was, so the next one to ask
computes again.
-/

namespace SensorSeries

structure Memo (α : Type) where
  known : Option α := none
  deriving Repr

namespace Memo

variable {σ α : Type}

def isKnown (m : Memo α) : Bool := m.known.isSome

def ofValue (a : α) : Memo α := ⟨some a⟩

/-- The value of the memo, computed if it is not known yet. -/
def get (compute : Action σ α) : Action (Memo α × σ) α := do
  match (← Action.get).1.known with
  | some a => return a
  | none =>
    let a ← Action.onSecond compute
    Action.modify fun (_, s) => (ofValue a, s)
    return a

def literal (write : α → String) (m : Memo α) : String :=
  match m.known with
  | some a => "Memoized(" ++ write a ++ ")"
  | none => "Memoized(<unresolved>)"

end Memo

end SensorSeries
