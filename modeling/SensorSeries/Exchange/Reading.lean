import SensorSeries.Calendar.Iso
import SensorSeries.Exchange.Tree
import SensorSeries.Number.Numeral
import SensorSeries.Observation.Basic
import SensorSeries.Profile.Basic
import SensorSeries.Series.Column

/-!
# Reading trees

`Readable.read` makes a thing of a tree, and `Tree.get` reads a field of a node. What the fields
hold is read in the order in which the parts of the thing are listed, so the first part that
cannot be read decides on the failure.
-/

namespace SensorSeries

class Readable (α : Type) where
  read : Tree → Except Failure α

namespace Tree

variable {α : Type} [Readable α]

def read (t : Tree) : Except Failure α := Readable.read t

/-- Reads a field of a node. -/
def get (t : Tree) (name : String) : Except Failure α := (t.field name).read

end Tree

instance : Readable Bool := ⟨fun t => match t with
  | .flag b => .ok b
  | _ => .ok false⟩

instance : Readable String := ⟨fun t => .ok t.word⟩

instance {α : Type} [Readable α] : Readable (List α) := ⟨fun t => t.items.mapM Tree.read⟩

/-- An empty tree is nothing. -/
instance {α : Type} [Readable α] : Readable (Option α) := ⟨fun t => match t with
  | .empty => .ok none
  | t => do return some (← t.read)⟩

instance : Readable (Option String) := ⟨fun t => .ok t.text?⟩

/-- Two trees in a list are a pair; a missing one is empty. -/
instance {α β : Type} [Readable α] [Readable β] : Readable (α × β) := ⟨fun t => do
  let a ← (t.items.headD .empty).read
  let b ← (t.items.getD 1 .empty).read
  return (a, b)⟩

/-! ## Data -/

namespace Datum

mutual

/-- The datum that a tree is by itself, where no node stands for anything else. -/
def ofPlain : Tree → Datum
  | .empty => .null
  | .flag b => .bool b
  | .number n => .int n
  | .double x => .num x
  | .text s => .text s
  | .list items => .list (ofPlainAll items)
  | .node fields => .record (ofPlainFields fields)
  | .failure _ => .null

def ofPlainAll : List Tree → List Datum
  | [] => []
  | t :: rest => ofPlain t :: ofPlainAll rest

def ofPlainFields : List (String × Tree) → List (String × Datum)
  | [] => []
  | (name, t) :: rest => (name, ofPlain t) :: ofPlainFields rest

end

/-- The fields of a geometry, of which a point lists its coordinates only: two, or three if it has
a height. -/
def geometryOf (fields : List (String × Datum)) : Except Failure Geometry :=
  let srid := (field? fields "srid").getD .null
  match field? fields "point" with
  | some (.list [x, y]) => .ok (.point x y .null srid)
  | some (.list [x, y, z]) => .ok (.point x y z srid)
  | some (.list _) => .error .wrongKind
  | _ => .ok ⟨(field? fields "type").getD .null, (field? fields "coordinates").getD .null, srid⟩

/-- Pairs of a name and a datum. -/
def pairsOf : List Datum → List (String × Datum)
  | [] => []
  | .list (.text name :: d :: _) :: rest => (name, d) :: pairsOf rest
  | _ :: rest => pairsOf rest

/-- The number that a text denotes, as a datum. -/
def ofNumeral {α : Type} (read? : String → Option α) (datum : α → Datum) (d : Datum) :
    Except Failure Datum :=
  match d with
  | .text s =>
    match read? s with
    | some n => .ok (datum n)
    | none => .error .badNumeral
  | _ => .error .wrongKind

/-- The field that names the kind of a scalar. -/
def scalarKind : String := "np"

/-- What a node stands for, by the name of one of its fields. A scalar stands for its value. -/
def ofNode (fields : List (String × Datum)) : Except Failure Datum :=
  match field? fields "i", field? fields "f", field? fields "d", field? fields "dt",
    field? fields "geometry", field? fields scalarKind with
  | some d, _, _, _, _, _ => ofNumeral Numeral.integer? .int d
  | _, some d, _, _, _, _ => ofNumeral Numeral.decimal? .num d
  | _, _, some (.list pairs), _, _, _ => .ok (ofFields (pairsOf pairs))
  | _, _, _, some (.text s), _, _ =>
    match Timestamp.ofIso? s with
    | some t => .ok (.time t)
    | none => .error (.badTimestamp false)
  | _, _, _, _, some (.record fields), _ => do return (← geometryOf fields).toDatum
  | _, _, _, _, some .null, _ => .ok .null
  | _, _, _, _, _, some _ => .ok ((field? fields "value").getD .null)
  | _, _, _, _, _, _ => .ok (.record fields)

mutual

def ofTree : Tree → Except Failure Datum
  | .empty => .ok .null
  | .flag b => .ok (.bool b)
  | .number n => .ok (.int n)
  | .double x => .ok (.num x)
  | .text s => .ok (.text s)
  | .list items => do return .list (← ofTrees items)
  | .node fields => do ofNode (← ofFieldTrees fields)
  | .failure f => .error f

def ofTrees : List Tree → Except Failure (List Datum)
  | [] => .ok []
  | t :: rest => do
    let d ← ofTree t
    return d :: (← ofTrees rest)

/-- The kind of a geometry is plain. -/
def ofFieldTrees : List (String × Tree) → Except Failure (List (String × Datum))
  | [] => .ok []
  | (name, t) :: rest => do
    let d ← if name = "type" then .ok (ofPlain t) else ofTree t
    return (name, d) :: (← ofFieldTrees rest)

end

end Datum

instance : Readable Datum := ⟨Datum.ofTree⟩

instance : Readable (Option Geometry) := ⟨fun t => match t with
  | .empty => .ok none
  | t => do return some (← Datum.geometryOf (← Datum.ofFieldTrees t.fields))⟩

/-! ## Times and values -/

instance : Readable (Option Timestamp) := ⟨fun t => match t with
  | .text s => Timestamp.ofText s
  | _ => .ok none⟩

instance : Readable (Option Instant) := ⟨fun t => match t with
  | .empty => .ok none
  | .text s => do return some (.ofTimestamp (← Timestamp.ofText s))
  | t => do
    let i ← Instant.ofTexts (t.field "value").text? (t.field "indeterminate").text?
      (t.field "nil_reason").text?
    return some i⟩

instance : Readable Period := ⟨fun t => do
  let (start, stop) ← t.read
  Period.make start stop⟩

/-- A datum that is something else than the thing asked for; null is nothing at all. -/
def Tree.raw {α : Type} (t : Tree) (other : Datum → α) : Except Failure (Option α) := do
  match ← Datum.ofTree t with
  | .null => return none
  | d => return some (other d)

instance : Readable (Option Time) := ⟨fun t => match t with
  | .empty => .ok none
  | .text s => do return some (.instant (.ofTimestamp (← Timestamp.ofText s)))
  | t =>
    if t.has "instant" then do
      let i : Option Instant ← t.get "instant"
      return i.map .instant
    else if t.has "period" then do return some (.period (← t.get "period"))
    else (t.field "raw").raw .other⟩

def ComponentKind.ofWord? (s : String) : Option ComponentKind :=
  match s with
  | "quantity" => some .quantity
  | "count" => some .count
  | "boolean" => some .boolean
  | "text" => some .text
  | "category" => some .category
  | _ => none

instance : Readable UnitOfMeasure := ⟨fun t => .ok ⟨Datum.ofPlain t⟩⟩

instance : Readable (Option Value) := ⟨fun t => match t with
  | .empty => .ok none
  | t => do
    let kind := (t.field "t").word
    let unit ← t.get "unit"
    match ComponentKind.ofWord? kind with
    | some kind =>
      return some (.component ⟨kind, ← t.get "value", unit, (t.field "name").text?,
        (t.field "definition").text?⟩)
    | none =>
      if kind = "geometry" then return some (.geometry (← t.get "value") unit)
      else if kind = "nil" then return some (.nil unit)
      else (t.field "value").raw .other⟩

instance : Readable Sample := ⟨fun t => do
  return { time := ← t.get "time", value := ← t.get "value" }⟩

instance : Readable Series := ⟨fun t => do
  return { unit := ← t.get "unit", samples := ← t.get "pairs" }⟩

instance : Readable (Option Result) := ⟨fun t =>
  if t.has "single" then do return some (.single (← t.get "single"))
  else if t.has "multi" then do return some (.multi (← t.get "multi") (← t.get "phenomenon_time"))
  else (t.field "raw").raw .other⟩

instance : Readable Entry := ⟨fun t => do
  let d : Datum ← t.read
  return if t.has Datum.scalarKind then .scalar d else .plain d⟩

instance : Readable (Column TimeIndex) := ⟨fun t => do
  let timestamps : Option (List (Option Timestamp)) ← t.get "index"
  let values ← t.get "values"
  let name ← t.get "name"
  Column.make .timeIndex (← timestamps.mapM Indexing.timeIndex.make) values name⟩

/-! ## Observations -/

instance : Readable Reference := ⟨fun t => match t with
  | .text s => .ok (.ofText s)
  | t => do return { href := ← t.get "href", title := ← t.get "title" }⟩

instance : Readable NamedValue := ⟨fun t => do
  return { name := ← t.get "name", value := ← t.get "value" }⟩

instance : Readable Parameter := ⟨fun t =>
  if t.has "raw" then do return .other (← t.get "raw")
  else do return .named (← t.read)⟩

instance : Readable ParameterSet := ⟨fun t => do ParameterSet.ofList (← t.read)⟩

instance : Readable Constellation := ⟨fun t => do
  return {
    procedure := ← t.get "procedure", observableProperty := ← t.get "observable_property",
    offering := ← t.get "offering", observationType := ← t.get "observation_type" }⟩

/-- Any data may stand for the four fields. -/
instance : Readable ConstellationFields := ⟨fun t =>
  let plain (name : String) : Datum := Datum.ofPlain (t.field name)
  .ok {
    procedure := plain "procedure", observableProperty := plain "observable_property",
    offering := plain "offering", observationType := plain "observation_type" }⟩

instance : Readable (Option Affiliation) := ⟨fun t => match t with
  | .empty => .ok none
  | t =>
    if t.has "raw" then (t.field "raw").raw (.other · none)
    else do return some (.constellation (← t.read))⟩

instance : Readable Observation := ⟨fun t => do
  return {
    identifier := ← t.get "identifier", constellation := ← t.get "constellation",
    result := ← t.get "value", resultTime := ← t.get "result_time",
    validTime := ← t.get "valid_time", parameters := ← t.get "parameters",
    quality := ← Observation.notesOf (Datum.ofPlain (t.field "quality")),
    mergeIndicator := ← t.get "additional_merge_indicator", resultType := ← t.get "result_type",
    tokenSeparator := ← t.get "token_separator", tupleSeparator := ← t.get "tuple_separator",
    decimalSeparator := ← t.get "decimal_separator", noDataValue := ← t.get "no_data_value",
    documentId := ← t.get "gml_id" }⟩

/-! ## Profiles -/

instance : Readable ProfileLevel := ⟨fun t => do
  return {
    start := ← t.get "start", stop := ← t.get "end", values := ← t.get "values",
    location := ← t.get "location" }⟩

instance : Readable ProfileItem := ⟨fun t => match t with
  | .node fields => do
    if fields.any (·.1 == "raw") then return .other (← t.get "raw") else return .level (← t.read)
  | t => do return .other (← t.read)⟩

instance : Readable DataField := ⟨fun t => do
  return { name := ← t.get "name", element := ← t.get "element" }⟩

end SensorSeries
