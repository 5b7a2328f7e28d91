import SensorSeries.Exchange.Tree
import SensorSeries.Journal
import SensorSeries.Observation.Basic
import SensorSeries.Profile.Basic
import SensorSeries.Series.Column

/-!
# Writing trees

`Writable.write` gives the tree of a thing. Where a part of a thing is the outcome of something that
may fail, the tree holds the failure.
-/

namespace SensorSeries

class Writable (α : Type) where
  write : α → Tree

namespace Tree

variable {α : Type} [Writable α]

def of (a : α) : Tree := Writable.write a

/-- A field of a node. -/
def entry (name : String) (a : α) : String × Tree := (name, of a)

end Tree

open SensorSeries.Tree (entry)

instance : Writable Tree := ⟨id⟩
instance : Writable Bool := ⟨.flag⟩
instance : Writable Nat := ⟨fun n => .number n⟩
instance : Writable Int := ⟨.number⟩
instance : Writable String := ⟨.text⟩

instance {α : Type} [Writable α] : Writable (Option α) := ⟨fun a => match a with
  | none => .empty
  | some a => Tree.of a⟩

instance {α : Type} [Writable α] : Writable (List α) := ⟨fun items => .list (items.map Tree.of)⟩

instance {α : Type} [Writable α] : Writable (Except Failure α) := ⟨fun a => match a with
  | .ok a => Tree.of a
  | .error f => .failure f⟩

/-- Comparing gives minus one, zero or one. -/
instance : Writable Ordering := ⟨fun o => match o with
  | .lt => .number (-1)
  | .eq => .number 0
  | .gt => .number 1⟩

instance : Writable Timestamp := ⟨fun t => .text t.iso⟩

/-! ## Data -/

mutual

/-- A datum as the tree that it is by itself. Timestamps and geometries are no trees. -/
def Datum.toPlain : Datum → Tree
  | .null => .empty
  | .bool b => .flag b
  | .int n => .number n
  | .num x => .double x
  | .text s => .text s
  | .list items => .list (Datum.toPlainAll items)
  | .tuple items => .list (Datum.toPlainAll items)
  | .record fields => .node (Datum.toPlainFields fields)
  | .time _ => .failure .wrongKind
  | .geometry .. => .failure .wrongKind

def Datum.toPlainAll : List Datum → List Tree
  | [] => []
  | d :: rest => Datum.toPlain d :: Datum.toPlainAll rest

def Datum.toPlainFields : List (String × Datum) → List (String × Tree)
  | [] => []
  | (name, d) :: rest => (name, Datum.toPlain d) :: Datum.toPlainFields rest

end

mutual

/-- A datum as a tree that tells its kind. -/
def Datum.toTree : Datum → Tree
  | .null => .empty
  | .bool b => .flag b
  | .int n => .node [("i", .text (toString n))]
  | .num x => .node [("f", .text x.text)]
  | .text s => .text s
  | .list items => .list (Datum.toTrees items)
  | .tuple items => .list (Datum.toTrees items)
  | .record fields => .node [("d", .list (Datum.toFieldTrees fields))]
  | .time t => .node [("dt", .text t.iso)]
  | .geometry kind coordinates srid => .node [("geometry", .node
      [("type", Datum.toPlain kind), ("coordinates", Datum.toTree coordinates),
        ("srid", Datum.toTree srid)])]

def Datum.toTrees : List Datum → List Tree
  | [] => []
  | d :: rest => Datum.toTree d :: Datum.toTrees rest

def Datum.toFieldTrees : List (String × Datum) → List Tree
  | [] => []
  | (name, d) :: rest => .list [.text name, Datum.toTree d] :: Datum.toFieldTrees rest

end

instance : Writable Datum := ⟨Datum.toTree⟩

instance : Writable Geometry := ⟨fun g => .node
  [("type", g.kind.toPlain), entry "coordinates" g.coordinates, entry "srid" g.srid]⟩

/-! ## Times and values -/

instance : Writable Instant := ⟨fun i => .node
  [entry "value" i.value, entry "indeterminate" (i.indeterminate.map (·.text)),
    entry "nil_reason" (i.nilReason.map (·.text))]⟩

instance : Writable Period := ⟨fun p => Tree.of [p.start, p.stop]⟩

instance : Writable Time := ⟨fun t => match t with
  | .instant i => .node [entry "instant" i]
  | .period p => .node [entry "period" p]
  | .other d => .node [entry "raw" d]⟩

instance : Writable UnitOfMeasure := ⟨fun u => u.symbol.toPlain⟩

def ComponentKind.word : ComponentKind → String
  | .quantity => "quantity"
  | .count => "count"
  | .boolean => "boolean"
  | .text => "text"
  | .category => "category"

instance : Writable Value := ⟨fun v => match v with
  | .component c => .node
    [entry "t" c.kind.word, entry "value" c.value, entry "unit" c.unit, entry "name" c.name,
      entry "definition" c.definition]
  | .geometry g unit => .node [entry "t" "geometry", entry "value" g, entry "unit" unit]
  | .nil unit => .node [entry "t" "nil", entry "unit" unit]
  | .other d => .node [entry "t" "raw", entry "value" d]⟩

instance : Writable Sample := ⟨fun s => .node [entry "time" s.time, entry "value" s.value]⟩

instance : Writable Series := ⟨fun s => .node [entry "unit" s.unit, entry "pairs" s.samples]⟩

instance : Writable Entry := ⟨fun e => match e with
  | .plain d => .of d
  | .scalar d => .of d
  | .value v => .of v⟩

instance : Writable (Column TimeIndex) := ⟨fun c => .node
  [entry "index" (c.index.map (·.timestamps)), entry "values" c.values, entry "name" c.name]⟩

/-- A series shows the time that it stands for, not only an explicit one. -/
instance : Writable Result := ⟨fun r => match r with
  | .single s => .node [entry "single" s]
  | .multi s _ => .node [entry "multi" s, entry "phenomenon_time" r.phenomenonTime]
  | .other d => .node [entry "raw" d]⟩

/-! ## Observations -/

instance : Writable Reference := ⟨fun r => .node [entry "href" r.href, entry "title" r.title]⟩

instance : Writable NamedValue := ⟨fun n => .node [entry "name" n.name, entry "value" n.value]⟩

instance : Writable Parameter := ⟨fun p => match p with
  | .named n => Tree.of n
  | .other .null => .empty
  | .other d => .node [entry "raw" d]⟩

instance : Writable ParameterSet := ⟨fun s => Tree.of s.items⟩

instance : Writable Constellation := ⟨fun c => .node
  [entry "procedure" c.procedure, entry "observable_property" c.observableProperty,
    entry "offering" c.offering, entry "observation_type" c.observationType]⟩

instance : Writable ConstellationFields := ⟨fun f => .node
  [("procedure", f.procedure.toPlain), ("observable_property", f.observableProperty.toPlain),
    ("offering", f.offering.toPlain), ("observation_type", f.observationType.toPlain)]⟩

instance : Writable Affiliation := ⟨fun a => match a with
  | .constellation c => Tree.of c
  | .other d _ => .node [entry "raw" d]⟩

instance : Writable Observation := ⟨fun o => .node
  [entry "identifier" o.identifier, entry "constellation" o.constellation, entry "value" o.result,
    entry "result_time" o.resultTime, entry "valid_time" o.validTime,
    entry "parameters" o.parameters,
    entry "quality" (o.sortedQuality.map fun notes => Tree.list (Datum.toPlainAll notes)),
    entry "additional_merge_indicator" o.mergeIndicator, entry "result_type" o.resultType,
    entry "token_separator" o.tokenSeparator, entry "tuple_separator" o.tupleSeparator,
    entry "decimal_separator" o.decimalSeparator, entry "no_data_value" o.noDataValue]⟩

instance : Writable JournalEntry := ⟨fun e => Tree.of [e.severity.name, e.source, e.text]⟩

/-! ## Profiles -/

instance : Writable ProfileLevel := ⟨fun l => .node
  [entry "start" l.start, entry "end" l.stop, entry "values" l.values, entry "location" l.location]⟩

instance : Writable DataField := ⟨fun f => .node [entry "name" f.name, entry "element" f.element]⟩

instance : Writable DataRecord := ⟨fun r => Tree.of r.fields⟩

end SensorSeries
