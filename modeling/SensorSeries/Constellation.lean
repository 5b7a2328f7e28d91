import SensorSeries.Failure
import SensorSeries.Value.Basic
import SensorSeries.Vocabulary

/-!
# Constellations

A constellation is what a group of observations has in common: procedure, observed property,
offering and type of observation. Observations whose type is set and is not one of the record
types can be joined to series. An observation may have a datum in place of a constellation:
`Affiliation` is either. A message may hold data of any kind for the four fields;
`ConstellationFields` is what it gives.
-/

namespace SensorSeries

structure Constellation where
  procedure : Option String
  observableProperty : Option String
  offering : Option String := none
  observationType : Option String := none
  deriving DecidableEq, Repr

namespace Constellation

def isSetObservationType (c : Constellation) : Bool := isFilled c.observationType

/-- Whether observations of this type can be joined. -/
def isMergeable (c : Constellation) : Bool :=
  match c.observationType with
  | none => false
  | some t => t != "" && !Vocabulary.recordTypes.contains t

def literal (c : Constellation) : String :=
  "ObservationConstellation(" ++ ", ".intercalate
    ([c.procedure, c.observableProperty, c.offering, c.observationType].map optionLiteral) ++ ")"

end Constellation

/-- What an observation belongs to: a constellation, or a datum that is none. The datum is kept, but
has no attributes. -/
inductive Affiliation where
  | constellation (c : Constellation)
  /-- The mark tells one and the same datum from data that merely look alike. -/
  | other (d : Datum) (mark : Option Nat)
  deriving Repr

namespace Affiliation

/-- Marks a datum as one that others may have as well. -/
def marked (mark : Nat) : Affiliation → Affiliation
  | .constellation c => .constellation c
  | .other d _ => .other d (some mark)

/-- Equality; the parts of one and the same datum are not compared with themselves. -/
def same : Affiliation → Affiliation → Bool
  | .constellation c, .constellation d => decide (c = d)
  | .other d m, .other e n => if m.isSome && m == n then !d.isNaN else d == e
  | _, _ => false

def hashable : Affiliation → Bool
  | .constellation _ => true
  | .other d _ => d.hashable

/-- The constellation; a datum that is none cannot be asked for its type. -/
def asConstellation : Affiliation → Except Failure Constellation
  | .constellation c => .ok c
  | .other .. => .error .noAttribute

def literal : Affiliation → String
  | .constellation c => c.literal
  | .other d _ => d.literal

def optionLiteral (a : Option Affiliation) : String := (a.map literal).getD "None"

end Affiliation

/-- The four fields of a constellation as a message gives them. -/
structure ConstellationFields where
  procedure : Datum
  observableProperty : Datum
  offering : Datum
  observationType : Datum
  deriving Repr

namespace ConstellationFields

/-- Reads a message: the first two fields must be there. -/
def ofMessage (message : Datum) : Except Failure ConstellationFields :=
  match message with
  | .record fields =>
    match Datum.field? fields "procedure", Datum.field? fields "observable_property" with
    | some procedure, some observableProperty =>
      .ok { procedure, observableProperty
            offering := (Datum.field? fields "offering").getD .null
            observationType := (Datum.field? fields "observation_type").getD .null }
    | _, _ => .error (.badConstellation message)
  | _ => .error .wrongKind

def isSetObservationType (f : ConstellationFields) : Bool := f.observationType.truthy

/-- Whether observations of this type can be joined; a list or record is no type to ask about. -/
def isMergeable (f : ConstellationFields) : Except Failure Bool := do
  if !f.isSetObservationType then return false
  if !f.observationType.hashable then throw .unhashable
  return !(Vocabulary.recordTypes.any fun t => Datum.text t == f.observationType)

/-- The fields never change: assigning one fails. -/
def assign (_ : ConstellationFields) (_field : String) : Except Failure ConstellationFields :=
  .error .immutableConstellation

def literal (f : ConstellationFields) : String :=
  "ObservationConstellation" ++
    (Datum.tuple [f.procedure, f.observableProperty, f.offering, f.observationType]).literal

end ConstellationFields

end SensorSeries
