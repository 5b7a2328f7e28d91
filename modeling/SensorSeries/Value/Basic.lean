import SensorSeries.Geometry
import SensorSeries.Value.UnitOfMeasure

/-!
# Values

A value is what an observation found: a component that describes itself by a name and a definition,
a geometry, or the placeholder of a template. A value may also be a datum that is none of these; it
is kept, but has no attributes.
-/

namespace SensorSeries

/-- The kinds of values that describe themselves. -/
inductive ComponentKind where
  | quantity
  | count
  | boolean
  | text
  | category
  deriving DecidableEq, Repr

def ComponentKind.typeName : ComponentKind → String
  | .quantity => "QuantityValue"
  | .count => "CountValue"
  | .boolean => "BooleanValue"
  | .text => "TextValue"
  | .category => "CategoryValue"

/-- A self-describing value. For a category the unit holds the code space. -/
structure Component where
  kind : ComponentKind
  value : Datum
  unit : UnitOfMeasure
  name : Option String := none
  definition : Option String := none
  deriving Repr

inductive Value where
  | component (c : Component)
  | geometry (g : Option Geometry) (unit : UnitOfMeasure)
  | nil (unit : UnitOfMeasure)
  | other (d : Datum)
  deriving Repr

/-- Neither missing nor empty. -/
def isFilled (s : Option String) : Bool := s.any (· != "")

namespace Component

def isSetName (c : Component) : Bool := isFilled c.name

def isSetDefinition (c : Component) : Bool := isFilled c.definition

def same (a b : Component) : Bool :=
  a.kind == b.kind && a.value == b.value && a.unit == b.unit && a.name == b.name &&
    a.definition == b.definition

def literal (c : Component) : String :=
  c.kind.typeName ++ "(value=" ++ c.value.literal ++ ", unit=" ++ c.unit.literal ++
    ", name=" ++ optionLiteral c.name ++ ", definition=" ++ optionLiteral c.definition ++ ")"

end Component

namespace Value

def quantity (value : Datum) (unit : UnitOfMeasure) : Value :=
  .component { kind := .quantity, value, unit }

def typeName : Value → String
  | .component c => c.kind.typeName
  | .geometry .. => "GeometryValue"
  | .nil _ => "NilTemplateValue"
  | .other d => d.kindName

def isNil : Value → Bool
  | .nil _ => true
  | _ => false

def isQuantity : Value → Bool
  | .component c => c.kind == .quantity
  | _ => false

def isGeometry : Value → Bool
  | .geometry .. => true
  | _ => false

def component? : Value → Option Component
  | .component c => some c
  | _ => none

def unit : Value → Except Failure UnitOfMeasure
  | .component c => .ok c.unit
  | .geometry _ unit => .ok unit
  | .nil unit => .ok unit
  | .other _ => .error .noAttribute

def geometryDatum (g : Option Geometry) : Datum := (g.map (·.toDatum)).getD .null

/-- What the value holds, as a datum. -/
def content : Value → Except Failure Datum
  | .component c => .ok c.value
  | .geometry g _ => .ok (geometryDatum g)
  | .nil _ => .ok .null
  | .other _ => .error .noAttribute

def same : Value → Value → Bool
  | .component a, .component b => a.same b
  | .geometry g u, .geometry h v => sameOption Geometry.same g h && u == v
  | .nil u, .nil v => u == v
  | .other a, .other b => a == b
  | _, _ => false

/-- Whether two values are one in every respect. -/
def identical : Value → Value → Bool
  | .component a, .component b =>
    a.kind == b.kind && a.value.identical b.value && a.unit == b.unit && a.name == b.name &&
      a.definition == b.definition
  | .geometry g u, .geometry h v => (geometryDatum g).identical (geometryDatum h) && u == v
  | .nil u, .nil v => u == v
  | .other a, .other b => a.identical b
  | _, _ => false

/-- Equality, except that what a value holds is not compared with what is it in every respect. -/
def sameOrIdentical (v w : Value) : Bool := v.identical w || v.same w

def literal : Value → String
  | .component c => c.literal
  | .geometry g unit =>
    "GeometryValue(value=" ++ (geometryDatum g).literal ++ ", unit=" ++ unit.literal ++ ")"
  | .nil unit => "NilTemplateValue(value=None, unit=" ++ unit.literal ++ ")"
  | .other d => d.literal

def optionLiteral (v : Option Value) : String := (v.map literal).getD "None"

/-- Wraps a datum into the value of its kind. A NaN is a missing quantity. -/
def ofDatum (d : Datum) (unit : UnitOfMeasure) : Except Failure Value :=
  match d with
  | .null => .ok (quantity .null unit)
  | .num .nan => .ok (quantity .null unit)
  | .bool b => .ok (.component { kind := .boolean, value := .bool b, unit })
  | .int n => .ok (.component { kind := .count, value := .int n, unit })
  | .num x => .ok (quantity (.num x) unit)
  | .text s => .ok (.component { kind := .text, value := .text s, unit })
  | .geometry kind coordinates srid => .ok (.geometry (some ⟨kind, coordinates, srid⟩) unit)
  | d => .error (.unsupportedData d.kindName)

end Value

end SensorSeries
