import SensorSeries.Order.Halving
import SensorSeries.Parameter.Basic

/-!
# Parameter sets

A parameter set keeps its parameters sorted and holds equal ones once. Names need not be unique: a
look-up by name answers with the first parameter of that name. `add` finds the place by halving;
`append_of_halvingSpan` tells that it keeps all parameters that were there.
-/

namespace SensorSeries

structure ParameterSet where
  items : List Parameter := []
  deriving Repr

namespace ParameterSet

def empty : ParameterSet := {}

def size (s : ParameterSet) : Nat := s.items.length

def isEmpty (s : ParameterSet) : Bool := s.items.isEmpty

/-- Puts a parameter in its place, unless an equal one stands there. -/
def add (s : ParameterSet) (p : Parameter) : Except Failure ParameterSet := do
  return ⟨← putBetween (fun q => q.before p) (fun q => q.same p) p s.items⟩

def ofList (ps : List Parameter) : Except Failure ParameterSet := ps.foldlM add empty

/-- Takes out the first item that passes a test. -/
def removeFirst {α : Type} (test : α → Except Failure Bool) : List α → Except Failure (List α)
  | [] => .error .absentMember
  | p :: rest => do
    if ← test p then return rest
    return p :: (← removeFirst test rest)

/-- Takes out the first parameter equal to `p`. -/
def remove (s : ParameterSet) (p : Parameter) : Except Failure ParameterSet := do
  return ⟨← removeFirst (fun q => q.same p) s.items⟩

def contains (s : ParameterSet) (p : Parameter) : Except Failure Bool :=
  s.items.anyM fun q => q.same p

/-- Whether a test holds for the items of two lists, place by place. -/
def sameItems {α : Type} (test : α → α → Except Failure Bool) :
    List α → List α → Except Failure Bool
  | p :: ps, q :: qs => do
    if ← test p q then sameItems test ps qs else return false
  | [], [] => .ok true
  | _, _ => .ok false

/-- Whether two sets hold equal parameters. -/
def same (s t : ParameterSet) : Except Failure Bool :=
  if s.size = t.size then sameItems Parameter.same s.items t.items else .ok false

def literal (s : ParameterSet) : String :=
  "ParameterSet([" ++ ", ".intercalate (s.items.map (·.literal)) ++ "])"

/-! ## Look-up -/

/-- The first named value that passes a test. -/
def first (test : NamedValue → Bool) : List Parameter → Except Failure (Option NamedValue)
  | [] => .ok none
  | p :: rest => do
    let n ← p.asNamed
    if test n then return some n
    first test rest

/-- The value of the first parameter of a name. -/
def get? (s : ParameterSet) (name : String) : Except Failure (Option Value) := do
  return (← first (·.hasName name) s.items).bind (·.value)

def getAll (s : ParameterSet) (name : String) : Except Failure (List NamedValue) := do
  return (← s.items.mapM (·.asNamed)).filter (·.hasName name)

def samplingGeometry (s : ParameterSet) : Except Failure (Option NamedValue) :=
  first (·.isSamplingGeometry) s.items

def height (s : ParameterSet) : Except Failure (Option NamedValue) :=
  first (·.isHeight) s.items

def depth (s : ParameterSet) : Except Failure (Option NamedValue) :=
  first (·.isDepth) s.items

/-- The depth if there is one, else the height. -/
def heightOrDepth (s : ParameterSet) : Except Failure (Option NamedValue) := do
  match ← s.depth with
  | some d => return some d
  | none => s.height

end ParameterSet

end SensorSeries
