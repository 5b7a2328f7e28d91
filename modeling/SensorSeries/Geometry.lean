import SensorSeries.Failure

/-!
# Geometries

A geometry has a kind, coordinates and the identifier of its reference system, all kept as given.
`key` is what two geometries are compared by: an empty kind is no kind, and it makes no difference
whether coordinates are lists or tuples.
-/

namespace SensorSeries

structure Geometry where
  kind : Datum
  coordinates : Datum
  srid : Datum
  deriving Repr

namespace Geometry

def toDatum (g : Geometry) : Datum := .geometry g.kind g.coordinates g.srid

/-- A point, with a height `z` or, if that is null, without one. -/
def point (x y z srid : Datum) : Geometry :=
  let coordinates := match z with
    | .null => [x, y]
    | z => [x, y, z]
  ⟨.text "Point", .tuple coordinates, srid⟩

/-- Reads the two fields of a GeoJSON geometry. -/
def ofGeoJson (source srid : Datum) : Except Failure Geometry :=
  match source with
  | .record fields =>
    match Datum.field? fields "type", Datum.field? fields "coordinates" with
    | some kind, some coordinates => .ok ⟨kind, coordinates, srid⟩
    | _, _ => .error (.badGeometry source .missingField)
  | _ => .error (.badGeometry source .notARecord)

def toGeoJson (g : Geometry) : Datum :=
  .record [("type", g.kind), ("coordinates", g.coordinates)]

/-- A missing identifier comes before every other. -/
def sridKey : Datum → Datum
  | .null => .tuple [.int 0]
  | srid => .tuple [.int 1, srid.canon]

def key (g : Geometry) : Datum :=
  .tuple [if g.kind.truthy then g.kind.canon else .text "", g.coordinates.canonCoordinates,
    sridKey g.srid]

def same (a b : Geometry) : Bool := a.key.beqCanon b.key

/-- Equality, except that a geometry is not compared with one that is it in every respect. -/
def sameOrIdentical (a b : Geometry) : Bool := a.toDatum.identical b.toDatum || a.same b

def literal (g : Geometry) : String := g.toDatum.literal

end Geometry

/-- Whether two optional things are both missing or the same. -/
def sameOption {α : Type} (same : α → α → Bool) : Option α → Option α → Bool
  | none, none => true
  | some a, some b => same a b
  | _, _ => false

end SensorSeries
