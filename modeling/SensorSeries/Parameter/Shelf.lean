import SensorSeries.Attempt
import SensorSeries.Parameter.Set

/-!
# Shelves of parameter sets

A shelf keeps parameter sets under names. A copy holds the very parameters of the set that it was
made from; what is added to either of them later belongs to that one alone. Where two sets hold one
parameter in common it is not compared with itself, so they may be equal even though the parameter
holds a NaN, or something that cannot be compared at all. Two parameters that merely look alike are
compared.
-/

namespace SensorSeries

/-- A parameter on a shelf. -/
structure HeldParameter where
  parameter : Parameter
  /-- Tells the parameter from all others on the shelf. -/
  mark : Nat

namespace HeldParameter

def same (p q : HeldParameter) : Except Failure Bool :=
  if p.mark = q.mark then .ok true else p.parameter.same q.parameter

end HeldParameter

structure ParameterShelf where
  sets : List (String × List HeldParameter) := []
  /-- No parameter has this mark or a greater one. -/
  freshMark : Nat := 0

namespace ParameterShelf

def find (shelf : ParameterShelf) (name : String) : Except Failure (List HeldParameter) :=
  match shelf.sets.find? (·.1 == name) with
  | some (_, items) => .ok items
  | none => .error .unknownName

def setOf (items : List HeldParameter) : ParameterSet := ⟨items.map (·.parameter)⟩

/-- The set of a name. -/
def set (shelf : ParameterShelf) (name : String) : Except Failure ParameterSet := do
  return setOf (← shelf.find name)

def put (shelf : ParameterShelf) (name : String) (items : List HeldParameter) : ParameterShelf :=
  { shelf with sets := (name, items) :: shelf.sets.filter (·.1 != name) }

/-- Puts a parameter into a set, unless it holds an equal one. -/
def add (shelf : ParameterShelf) (name : String) (p : Parameter) :
    Except (Stopped ParameterShelf) ParameterShelf := do
  let items ← Attempt.orLeave shelf (shelf.find name)
  let items ← Attempt.orLeave shelf (putBetween (fun q => q.parameter.before p)
    (fun q => q.parameter.same p) ⟨p, shelf.freshMark⟩ items)
  return { shelf.put name items with freshMark := shelf.freshMark + 1 }

/-- Takes the first parameter equal to `p` out of a set. -/
def remove (shelf : ParameterShelf) (name : String) (p : Parameter) :
    Except (Stopped ParameterShelf) ParameterShelf := do
  let items ← Attempt.orLeave shelf (shelf.find name)
  let items ← Attempt.orLeave shelf (ParameterSet.removeFirst (fun q => q.parameter.same p) items)
  return shelf.put name items

/-- A new set of parameters of its own. It comes onto the shelf when all parameters are in it; what a
set is that cannot be finished, nobody gets to see. -/
def create (shelf : ParameterShelf) (name : String) (ps : List Parameter) :
    Except (Stopped ParameterShelf) ParameterShelf :=
  Attempt.orLeave shelf
    (ps.foldlM (fun shelf p => Attempt.result (shelf.add name p)) (shelf.put name []))

/-- Lets another name stand for a copy of a set. -/
def copy (shelf : ParameterShelf) (name other : String) :
    Except (Stopped ParameterShelf) ParameterShelf := do
  return shelf.put other (← Attempt.orLeave shelf (shelf.find name))

/-- Whether two sets of the shelf hold equal parameters. -/
def same (shelf : ParameterShelf) (name other : String) : Except Failure Bool := do
  let items ← shelf.find name
  let others ← shelf.find other
  if items.length = others.length then ParameterSet.sameItems HeldParameter.same items others
  else return false

end ParameterShelf

end SensorSeries
