import SensorSeries.Value.Basic

/-!
# Order of values

Values are ordered by a key that covers all their fields, kind first. Keys are tuples of data, so
they are compared from the front. Data of different kinds come in a fixed order of the kinds:
nothing, numbers, texts, geometries, NaN, and all others by their literal.
-/

namespace SensorSeries

/-- The key of a datum among data of all kinds. All NaNs have one key. -/
def Datum.key : Datum → Datum
  | .null => .tuple [.int 0]
  | .bool b => .tuple [.int 1, .bool b]
  | .int n => .tuple [.int 1, .int n]
  | .num .nan => .tuple [.int 4]
  | .num x => .tuple [.int 1, .num x]
  | .text s => .tuple [.int 2, .text s]
  | .geometry kind coordinates srid => .tuple [.int 3, Geometry.key ⟨kind, coordinates, srid⟩]
  | d => .tuple [.int 5, .text d.kindName, .text d.literal]

/-- A missing text comes before every other. -/
def optionKey : Option String → Datum
  | none => .tuple [.int 0]
  | some s => .tuple [.int 1, .text s]

namespace Value

def keyOf (typeName : String) (content : Datum) (unit : UnitOfMeasure)
    (name definition : Option String) : Datum :=
  .tuple [.text typeName, content.key, unit.key, optionKey name, optionKey definition]

/-- The key of a value; a datum that is no value has none. -/
def key : Value → Except Failure Datum
  | .component c => .ok (keyOf c.kind.typeName c.value c.unit c.name c.definition)
  | .geometry g unit => .ok (keyOf "GeometryValue" (geometryDatum g) unit none none)
  | .nil unit => .ok (keyOf "NilTemplateValue" .null unit none none)
  | .other d => .error (.unsupported .value d.kindName)

/-- A missing value comes before every other. -/
def optionKey : Option Value → Except Failure Datum
  | none => .ok (.tuple [.text ""])
  | some v => v.key

end Value

end SensorSeries
