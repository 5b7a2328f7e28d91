import SensorSeries.Stream.Reprojection

/-!
# Rehearsed sources and transformers

Stand-ins that fail on a plan. A rehearsed source does what another one does, keeps a list of what
it was asked, and fails when the plan says so, before it does anything. A rehearsed transformer
does something simple to a geometry.
-/

namespace SensorSeries

/-- What a source can be asked. -/
inductive Hook where
  | fetch
  | unit
  | times
  | release
  deriving DecidableEq, Repr

/-- The failure of the n-th call of a hook, counted from one. -/
abbrev HookPlan := Hook → Nat → Option Outage

namespace Source

variable {σ τ ε α : Type}

def countOf (h : Hook) (calls : List Hook) : Nat := (calls.filter (· == h)).length

/-- Counts a call, and fails if that is the plan. -/
def called (plan : HookPlan) (h : Hook) (x : Action σ α) : Action (σ × List Hook) α := do
  Action.modify fun (s, calls) => (s, calls ++ [h])
  match plan h (countOf h (← Action.get).2) with
  | some o => Action.fail (.outage o)
  | none => Action.onFirst x

def rehearsed (src : Source σ ε) (plan : HookPlan) : Source (σ × List Hook) ε where
  name := src.name
  fetch := called plan .fetch src.fetch
  unit := called plan .unit src.unit
  times := called plan .times src.times
  release := called plan .release src.release
  convert := src.convert
  pending s := src.pending s.1

/-- A source beside something that it does not touch. -/
def beside (src : Source σ ε) : Source (σ × τ) ε where
  name := src.name
  fetch := Action.onFirst src.fetch
  unit := Action.onFirst src.unit
  times := Action.onFirst src.times
  release := Action.onFirst src.release
  convert := src.convert
  pending s := src.pending s.1

end Source

/-- What a rehearsed transformer does to a geometry. -/
inductive Imitation where
  /-- Exchanges the first two coordinates. -/
  | swap
  /-- Keeps the coordinates. -/
  | relabel
  /-- Answers with a geometry of its own. -/
  | constant (g : Option Geometry)

namespace Imitation

/-- The coordinates with the first two exchanged. A text is taken character by character. -/
def swapped (coordinates : Datum) : Except Failure Datum :=
  if coordinates matches .record _ then .error .noField
  else
    match coordinates.elements? with
    | some (x :: y :: rest) => .ok (.list (y :: x :: rest))
    | some _ => .error .noColumn
    | none => .error .wrongKind

/-- The image of a geometry. A missing one has none, unless the answer does not depend on it. -/
def image (i : Imitation) (g : Option Geometry) (target : Int) : Except Failure (Option Geometry) :=
  match i, g with
  | .constant answer, _ => .ok answer
  | _, none => .error (.outage .value)
  | .swap, some g => do
    return some ⟨g.kind, ← swapped g.coordinates, .int target⟩
  | .relabel, some g => .ok (some ⟨g.kind, g.coordinates, .int target⟩)

/-- A transformer that keeps a list of the reference systems asked for and fails at one call. -/
def transformer (i : Imitation) (failAt : Option Nat) : Transformer (List Int) where
  transform g target := do
    Action.modify (· ++ [target])
    if failAt = some (← Action.get).length then Action.fail (.outage .connection)
    Action.lift (i.image g target)

end Imitation

/-- A transformer beside something that it does not touch. -/
def Transformer.beside {σ τ : Type} (t : Transformer τ) : Transformer (σ × τ) where
  transform g target := Action.onSecond (t.transform g target)

end SensorSeries
