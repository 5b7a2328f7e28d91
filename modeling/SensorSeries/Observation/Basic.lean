import SensorSeries.Attempt
import SensorSeries.Constellation
import SensorSeries.Order.Sorting
import SensorSeries.Parameter.Set
import SensorSeries.Result

/-!
# Observations

An observation is a result with the times, parameters and quality notes that belong to it. The
constellation says which observations belong together. The text encoding hints are carried along for
later rendering.
-/

namespace SensorSeries

structure Observation where
  identifier : Option String := none
  constellation : Option Affiliation := none
  result : Option Result := none
  resultTime : Option Instant := none
  validTime : Option Time := none
  parameters : ParameterSet := {}
  /-- Notes on the quality, each once, in the order in which they came; texts as a rule. -/
  quality : List Datum := []
  /-- Keeps observations of one constellation apart. -/
  mergeIndicator : Option String := none
  resultType : Option String := none
  tokenSeparator : Option String := none
  tupleSeparator : Option String := none
  decimalSeparator : Option String := none
  noDataValue : Option String := none
  documentId : Option String := none
  deriving Repr

namespace Observation

def literal (o : Observation) : String :=
  "Observation(" ++ optionLiteral o.identifier ++ ", " ++
    Affiliation.optionLiteral o.constellation ++ ", " ++ Result.optionLiteral o.result ++ ")"

def phenomenonTime (o : Observation) : Except Failure (Option Time) :=
  match o.result with
  | none => .ok none
  | some r => r.phenomenonTime

/-! ## Document identifier -/

/-- The identifier in a document: one that was given, else one made from the identifier. -/
def effectiveDocumentId (o : Observation) : Option String :=
  if isFilled o.documentId then o.documentId
  else if isFilled o.identifier then o.identifier.map ("o_" ++ ·)
  else o.documentId

/-- Asking for the document identifier settles it. -/
def settleDocumentId (o : Observation) : Observation :=
  { o with documentId := o.effectiveDocumentId }

/-! ## What is set -/

def isSetIdentifier (o : Observation) : Bool := isFilled o.identifier

def isSetResult (o : Observation) : Except Failure Bool :=
  match o.result with
  | none => .ok false
  | some r => r.isSetValue

def isSetPhenomenonTime (o : Observation) : Except Failure Bool := do
  Time.isSetOption (← o.phenomenonTime)

def isSetResultTime (o : Observation) : Bool := o.resultTime.any (·.isSet)

def isTemplateResultTime (o : Observation) : Bool :=
  o.resultTime.any fun t => t.isSet && t.isTemplate

def isSetValidTime (o : Observation) : Except Failure Bool :=
  match o.validTime with
  | none => .ok false
  | some t => do return !(← t.isEmpty)

def isSetQuality (o : Observation) : Bool := !o.quality.isEmpty

/-- The notes on the quality in their order; notes of different kinds have none. -/
def sortedQuality (o : Observation) : Except Failure (List Datum) :=
  sorted (fun a b => ordered (a.before? b)) o.quality

def isSetMergeIndicator (o : Observation) : Bool := isFilled o.mergeIndicator

def isSetParameters (o : Observation) : Bool := !o.parameters.isEmpty

/-! ## Changes -/

def addParameter (o : Observation) (p : Parameter) : Except Failure Observation := do
  return { o with parameters := ← o.parameters.add p }

/-- Puts a note behind others, unless it is among them. A list or a record is no note. -/
def insertNote (notes : List Datum) (note : Datum) : Except Failure (List Datum) :=
  if !note.hashable then .error .unhashable
  else .ok (if notes.any (· == note) then notes else notes ++ [note])

/-- The notes that can be taken out of a datum; an empty one has none. -/
def notesOf (d : Datum) : Except Failure (List Datum) :=
  if !d.truthy then .ok []
  else
    match d.elements? with
    | some notes => notes.foldlM insertNote []
    | none => .error .wrongKind

/-- Adds one note. -/
def addNote (o : Observation) (d : Datum) : Except (Stopped Observation) Observation := do
  return { o with quality := ← Attempt.orLeave o (insertNote o.quality d) }

/-- Adds a note, or every note of a list up to the first that is none. -/
def addQuality (o : Observation) (d : Datum) :
    Except (Stopped Observation) Observation :=
  match d.items? with
  | some items => items.foldlM addNote o
  | none => o.addNote d

/-- A new observation with the constellation, parameters and encoding hints of this one, and without
result, times and quality. -/
def cloneTemplate (o : Observation) : Observation where
  constellation := o.constellation
  parameters := o.parameters
  resultType := o.resultType
  tokenSeparator := o.tokenSeparator
  tupleSeparator := o.tupleSeparator
  decimalSeparator := o.decimalSeparator

/-- The observation that describes a data stream: what is observed by what procedure. -/
def template (procedure observedProperty observationType : String) : Observation where
  identifier := some (procedure ++ "/" ++ observedProperty)
  constellation := some (.constellation
    { procedure := some procedure, observableProperty := some observedProperty
      observationType := some observationType })

end Observation

end SensorSeries
