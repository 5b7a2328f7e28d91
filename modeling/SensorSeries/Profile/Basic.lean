import SensorSeries.Attempt
import SensorSeries.Order.Sorting
import SensorSeries.Profile.Level

/-!
# Profiles

A profile keeps its levels sorted by their start; levels with equal starts stay in the order in
which they came. An item of a profile may also be a datum that is no level; such an item has no
order among levels and no bounds to ask for. It cannot be added to levels either, but is among them
after the attempt.
-/

namespace SensorSeries

inductive ProfileItem where
  | level (l : ProfileLevel)
  | other (d : Datum)
  deriving Repr

namespace ProfileItem

def before : ProfileItem → ProfileItem → Except Failure Bool
  | .level a, .level b => a.before b
  | .other a, .other b => ordered (a.before? b)
  | _, _ => .error .unorderable

/-- An item as a level. -/
def asLevel : ProfileItem → Except Failure ProfileLevel
  | .level l => .ok l
  | .other _ => .error .noAttribute

/-- A level can be a member of no set. -/
def hashable : ProfileItem → Bool
  | .level _ => false
  | .other d => d.hashable

def relations : ProfileItem → ProfileItem → Relations
  | .level a, .level b =>
    let ask (test : Ordering → Bool) : Except Failure Bool := do return test (← a.compare b)
    { same := .ok (a.same b)
      before := ask (· == .lt)
      notAfter := ask (· != .gt)
      after := ask (· == .gt)
      notBefore := ask (· != .lt)
      distinct := .error .unhashable }
  | .other a, .other b => .ofData a b
  | p, q => .unrelated (.ok p.hashable) (.ok q.hashable)

/-- Compares a level with another one; there must be another one. -/
def compare : ProfileItem → ProfileItem → Except Failure Ordering
  | .level a, .level b => a.compare b
  | .level _, .other .null => .error .comparedWithNothing
  | _, _ => .error .noAttribute

end ProfileItem

structure Profile where
  items : List ProfileItem
  unit : UnitOfMeasure := .missing
  deriving Repr

namespace Profile

def ofItems (items : List ProfileItem) (unit : UnitOfMeasure) : Except Failure Profile := do
  return { items := ← sorted ProfileItem.before items, unit }

/-- Puts an item behind the others and sorts all of them. If that fails the item stays behind the
others. -/
def add (p : Profile) (item : ProfileItem) : Except (Stopped Profile) Profile := do
  let grown : Profile := { p with items := p.items ++ [item] }
  let items ← Attempt.orLeave grown (sorted ProfileItem.before grown.items)
  return { p with items }

/-- Adds items one after the other. -/
def addAll (p : Profile) (items : List ProfileItem) : Except Failure Profile :=
  items.foldlM (fun p item => Attempt.result (p.add item)) p

def isSetValue (p : Profile) : Bool := !p.items.isEmpty

/-- Whether there are levels and each of them has both bounds. -/
def isFromTo (p : Profile) : Except Failure Bool := do
  if p.items.isEmpty then return false
  p.items.allM fun item => do
    let l ← item.asLevel
    return l.isSetStart && l.isSetStop

/-- The bounds that hold a number, each with the number. -/
def numbered (bound : ProfileLevel → Option Value) :
    List ProfileItem → Except Failure (List (Value × Datum))
  | [] => .ok []
  | item :: rest => do
    match bound (← item.asLevel) with
    | none => numbered bound rest
    | some v =>
      match ← v.content with
      | .null => numbered bound rest
      | d => return (v, d) :: (← numbered bound rest)

/-- The first entry that no other beats. -/
def best (beats : Datum → Datum → Except Failure Bool) :
    List (Value × Datum) → Except Failure (Option Value)
  | [] => .ok none
  | first :: rest => do
    let (v, _) ← rest.foldlM (fun (kept : Value × Datum) entry => do
      return if ← beats entry.2 kept.2 then entry else kept) first
    return some v

/-- The first of the smallest starts. -/
def minStart (p : Profile) : Except Failure (Option Value) := do
  best (fun d kept => ordered (d.before? kept)) (← numbered (·.start) p.items)

/-- The first of the greatest ends. -/
def maxStop (p : Profile) : Except Failure (Option Value) := do
  best (fun d kept => ordered (kept.before? d)) (← numbered (·.stop) p.items)

end Profile

end SensorSeries
