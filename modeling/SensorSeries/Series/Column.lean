import SensorSeries.Series.Basic
import SensorSeries.Series.Index

/-!
# Columns

A column holds entries indexed by timestamps and may have a name. `Series.toColumn` lists the
contents of a series, `Series.ofColumn` reads a column as a series of instants. Both are about any
kind of index.
-/

namespace SensorSeries

/-- What a column holds at a timestamp. -/
inductive Entry where
  | plain (d : Datum)
  /-- A scalar of an array, told by the plain datum that it stands for. -/
  | scalar (d : Datum)
  /-- A value, which needs no wrapping. -/
  | value (v : Value)
  deriving Repr

namespace Entry

/-- Wraps an entry into a value. A scalar is unwrapped first; a value stays as it is. -/
def toValue (e : Entry) (unit : UnitOfMeasure) : Except Failure Value :=
  match e with
  | .plain d => Value.ofDatum d unit
  | .scalar d => Value.ofDatum d unit
  | .value (.other d) => Value.ofDatum d unit
  | .value v => .ok v

end Entry

structure Column (ι : Type) where
  /-- What holds the timestamps; a column may be indexed by something else. -/
  index : Option ι
  values : List Entry
  name : Datum

variable {ι : Type}

/-- A column of its parts: the name must be something that can be looked up, and every timestamp
must have a value. -/
def Column.make (ix : Indexing ι) (index : Option ι) (values : List Entry) (name : Datum) :
    Except Failure (Column ι) := do
  if !name.hashable then throw .unhashable
  if index.any fun i => (ix.timestamps i).length ≠ values.length then throw .unequalLengths
  return { index, values, name }

namespace Series

/-- A missing value has missing content. -/
def contentOf (value : Option Value) : Except Failure Datum :=
  match value with
  | none => .ok .null
  | some v => v.content

/-- The contents of the samples, indexed by their timestamps and named by the symbol of the unit. -/
def toColumn (s : Series) (ix : Indexing ι) : Except Failure (Column ι) := do
  let timestamps ← s.samples.mapM (·.timestamp)
  let index ← ix.make timestamps
  let values ← s.samples.mapM fun sample => contentOf sample.value
  Column.make ix (some index) (values.map .plain) s.unit.symbol

/-- The name of a column serves as the unit if it is a text and no unit is given. -/
def columnUnit (unit : UnitOfMeasure) (name : Datum) : UnitOfMeasure :=
  match name with
  | .text s => if unit.isMissing then .ofText s else unit
  | _ => unit

/-- Every entry becomes a sample at an instant. -/
def ofColumn (ix : Indexing ι) (c : Column ι) (unit : UnitOfMeasure) : Except Failure Series := do
  let some index := c.index | throw .noTimeIndex
  let unit := columnUnit unit c.name
  let samples ← ((ix.timestamps index).zip c.values).mapM fun (t, entry) => do
    let value ← entry.toValue unit
    return { time := some (.instant (.ofTimestamp t)), value := some value : Sample }
  return { unit, samples }

end Series

end SensorSeries
