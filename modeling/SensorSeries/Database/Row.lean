import SensorSeries.Number.Numeral
import SensorSeries.Series.Basic

/-!
# Rows

A row of the observation table tells start and end of the phenomenon, the time of the result, the
kind of the result, and has one column for each kind. Only the column of its own kind is read.
-/

namespace SensorSeries

abbrev Row := List Datum

/-- The kinds of results, in the order of their numbers and of their columns. -/
inductive ResultKind where
  | number
  | text
  | json
  | boolean
  deriving DecidableEq, Repr

namespace ResultKind

/-- The number of the kind. -/
def code : ResultKind → Nat
  | .number => 0
  | .text => 1
  | .json => 2
  | .boolean => 3

def all : List ResultKind := [.number, .text, .json, .boolean]

/-- The kind that a datum stands for: any datum equal to its number will do. -/
def ofDatum? (d : Datum) : Option ResultKind :=
  all.find? fun k => Datum.int k.code == d

/-- The first of the columns that hold results. -/
def firstColumn : Nat := 4

def column (k : ResultKind) : Nat := firstColumn + k.code

end ResultKind

/-- The double nearest to a datum that stands for a number. -/
def Datum.toDouble : Datum → Except Failure Binary64
  | .bool b => .ok (.ofRatio false (if b then 1 else 0) 1)
  | .int n =>
    match Binary64.ofInt? n with
    | some x => .ok x
    | none => .error .tooLarge
  | .num x => .ok x
  | .text s =>
    match Numeral.decimal? s with
    | some x => .ok x
    | none => .error .badNumeral
  | _ => .error .wrongKind

/-- A period between two data that stand for timestamps. -/
def Period.ofData (start stop : Datum) : Except Failure Period := do
  let s ← start.toTimestamp
  let e ← stop.toTimestamp
  Period.make s e

namespace Row

/-- The time of a row: a period if start and end are there and differ, else an instant. -/
def time (start stop : Datum) : Except Failure Time :=
  match start, stop with
  | .null, stop => do return .instant (.ofTimestamp (← stop.toTimestamp))
  | start, .null => do return .instant (.ofTimestamp (← start.toTimestamp))
  | start, stop =>
    if start == stop then do return .instant (.ofTimestamp (← start.toTimestamp))
    else do return .period (← Period.ofData start stop)

/-- The value that a column of a kind holds. A column may hold nothing. -/
def value (k : ResultKind) (d : Datum) (unit : UnitOfMeasure) : Except Failure Value :=
  match k, d with
  | .number, .null => .ok (.quantity .null unit)
  | .number, d => do return .quantity (.num (← d.toDouble)) unit
  | .text, d => .ok (.component { kind := .text, value := d, unit })
  | .json, .null => .ok (.component { kind := .text, value := .null, unit })
  | .json, d =>
    match d.json? with
    | some s => .ok (.component { kind := .text, value := .text s, unit })
    | none => .error .wrongKind
  | .boolean, d => .ok (.component { kind := .boolean, value := d, unit })

/-- Reads a row. The column of the result is looked up before the time, the time before the value.
-/
def toSample (row : Row) (unit : UnitOfMeasure) : Except Failure Sample :=
  match row with
  | start :: stop :: _resultTime :: type :: _ => do
    if !type.hashable then throw .unhashable
    match ResultKind.ofDatum? type with
    | none => do
      let _ ← time start stop
      throw (.unknownResultType type)
    | some k =>
      match row[k.column]? with
      | none => throw .noColumn
      | some d => do
        let t ← time start stop
        let v ← value k d unit
        return { time := some t, value := some v }
  | _ => .error .rowTooShort

end Row

end SensorSeries
