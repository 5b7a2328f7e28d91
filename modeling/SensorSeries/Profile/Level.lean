import SensorSeries.Order.Relations
import SensorSeries.Profile.Record

/-!
# Levels of a profile

A level holds what was observed in one interval of depth or height. Levels are compared by the
number of their start: one without comes before all that have one, and levels with equal starts
compare as equal whatever else they hold. `same` is stronger: it compares everything. So does
`sameOrIdentical`, but it takes every part for equal to itself, even one that holds a NaN.
-/

namespace SensorSeries

structure ProfileLevel where
  start : Option Value := none
  stop : Option Value := none
  values : List (Option Value) := []
  location : Option Geometry := none
  deriving Repr

namespace ProfileLevel

/-- What the bound of a level holds; a missing bound holds nothing. -/
def bound : Option Value → Except Failure Datum
  | none => .ok .null
  | some v => v.content

def isSetStart (l : ProfileLevel) : Bool := l.start.isSome

def isSetStop (l : ProfileLevel) : Bool := l.stop.isSome

def isSetValue (l : ProfileLevel) : Bool := !l.values.isEmpty

def isSetLocation (l : ProfileLevel) : Bool := l.location.isSome

def addValue (l : ProfileLevel) (v : Option Value) : ProfileLevel :=
  { l with values := l.values ++ [v] }

/-- Replaces the values by what is left of them once they are cleared: nothing. -/
def refillFromItself (l : ProfileLevel) : ProfileLevel := { l with values := [] }

def literal (l : ProfileLevel) : Except Failure String := do
  let start ← bound l.start
  let stop ← bound l.stop
  return "ProfileLevel(" ++ start.display ++ ", " ++ stop.display ++ ", " ++
    toString l.values.length ++ " values)"

/-- The value of a level that has one value. -/
def simpleValue (l : ProfileLevel) : Except Failure (Option Value) :=
  match l.values with
  | [] => do throw (.noValues (← l.literal))
  | v :: _ => .ok v

/-! ## Comparison -/

/-- Compares two starts, where a missing number comes first. -/
def compareStarts : Datum → Datum → Except Failure Ordering
  | .null, .null => .ok .eq
  | .null, _ => .ok .lt
  | _, .null => .ok .gt
  | x, y => if x == y then .ok .eq else do return if ← ordered (x.before? y) then .lt else .gt

def compare (a b : ProfileLevel) : Except Failure Ordering := do
  let x ← bound a.start
  let y ← bound b.start
  compareStarts x y

def before (a b : ProfileLevel) : Except Failure Bool := do
  return (← a.compare b) == .lt

/-- Whether two levels agree in every part, by a test for values and one for geometries. -/
def agree (values : Value → Value → Bool) (locations : Geometry → Geometry → Bool)
    (a b : ProfileLevel) : Bool :=
  sameOption values a.start b.start && sameOption values a.stop b.stop &&
    sameOption locations a.location b.location && agreeAll a.values b.values
where
  agreeAll : List (Option Value) → List (Option Value) → Bool
    | [], [] => true
    | v :: vs, w :: ws => sameOption values v w && agreeAll vs ws
    | _, _ => false

/-- Whether two levels are equal in everything. -/
def same (a b : ProfileLevel) : Bool := agree Value.same Geometry.same a b

/-- Equality, except that a part is not compared with one that is it in every respect. It is what
equality of levels comes to that share parts, and of a level with itself. -/
def sameOrIdentical (a b : ProfileLevel) : Bool :=
  agree Value.sameOrIdentical Geometry.sameOrIdentical a b

/-! ## Records -/

/-- What a component is called in a record: by its name, else by its definition. -/
def nameOf? (c : Component) : Option String :=
  if c.isSetName then c.name else if c.isSetDefinition then c.definition else none

/-- A field for every value that describes itself. Values without a name of their own are numbered,
from `count` on. -/
def fieldsFrom (count : Nat) : List (Option Value) → List DataField
  | [] => []
  | v :: rest =>
    match v.bind (·.component?) with
    | none => fieldsFrom count rest
    | some c =>
      match nameOf? c with
      | some name => ⟨name, v⟩ :: fieldsFrom count rest
      | none => ⟨"component_" ++ toString count, v⟩ :: fieldsFrom (count + 1) rest

def valueFields (l : ProfileLevel) : List DataField := fieldsFrom 0 l.values

/-- Puts a field for every value that describes itself behind the fields of a record. -/
def appendTo (l : ProfileLevel) (r : DataRecord) : DataRecord := r.addAll l.valueFields

/-- The field of a bound, called by the name of the bound if it has one. -/
def boundField (fallback : String) : Option Value → Except Failure (List DataField)
  | none => .ok []
  | some (.component c) =>
    .ok [⟨if c.isSetName then c.name.getD fallback else fallback, some (.component c)⟩]
  | some _ => .error .noAttribute

/-- The bounds that are set, then the values that describe themselves. -/
def toRecord (l : ProfileLevel) : Except Failure DataRecord := do
  let start ← boundField "levelStart" l.start
  let stop ← boundField "levelEnd" l.stop
  return l.appendTo ⟨start ++ stop⟩

end ProfileLevel

end SensorSeries
