import SensorSeries.Datum.Literal

/-!
# Failures

`Failure` lists every way in which an operation of this library can fail, by cause. `message` words
the failures that the library reports itself; a failure without a message comes out of an operation
on data of the wrong kind, or from outside.
-/

namespace SensorSeries

/-- Why two observations are not merged. -/
inductive Refusal where
  | constellationMissing
  | constellationsDiffer
  | typeNotMergeable (observationType : Option String)
  | indicatorsDiffer
  | indicatorOnOneSide
  deriving DecidableEq, Repr

def Refusal.text : Refusal → String
  | .constellationMissing => "observation constellation is not set"
  | .constellationsDiffer => "observation constellations differ"
  | .typeNotMergeable t => "observation type " ++ optionLiteral t ++ " is not mergeable"
  | .indicatorsDiffer => "additional merge indicators differ"
  | .indicatorOnOneSide => "additional merge indicator is set on one side only"

/-- Failures of the services around this library. -/
inductive Outage where
  | connection
  | value
  | query
  | database
  deriving DecidableEq, Repr

/-- What a stream was doing when it failed. -/
inductive Stage where
  | fetching
  | converting
  | queryingTimes
  | queryingUnit
  deriving DecidableEq, Repr

def Stage.text : Stage → String
  | .fetching => "failed to fetch the next entity"
  | .converting => "failed to convert"
  | .queryingTimes => "failed to query times"
  | .queryingUnit => "failed to query the unit"

/-- Where a datum of an unsupported kind was met. -/
inductive Role where
  | time
  | value
  | observationValue
  deriving DecidableEq, Repr

def Role.text : Role → String
  | .time => "time type"
  | .value => "value type"
  | .observationValue => "observation value"

/-- Why a geometry cannot be read. -/
inductive GeometryFault where
  | missingField
  | notARecord
  deriving DecidableEq, Repr

inductive Failure where
  /-- Two data of kinds without a common order were ordered. -/
  | unorderable
  /-- A list or record was put into a set. -/
  | unhashable
  /-- A datum of the wrong kind was used. -/
  | wrongKind
  /-- An attribute of nothing, or of a datum without attributes, was needed. -/
  | noAttribute
  | immutableConstellation
  | unsupported (role : Role) (kind : String)
  | unsupportedData (kind : String)
  | comparedWithNothing
  | noTimeIndex
  | queryNotText (kind : String)
  | missingVariable (name : String)
  | variableCast (name type value : String)
  /-- A text or an integer is no timestamp; `field` tells that it is one but for a field out of
  range. -/
  | badTimestamp (field : Bool)
  /-- A time must be counted in nanoseconds, but is too far away for that. -/
  | beyondNanoseconds
  /-- A word is none of a closed list of words. -/
  | unknownWord
  | badNumeral
  /-- An integer is too large for a double. -/
  | tooLarge
  /-- The timestamps of a series do not share one distance from universal time. -/
  | mixedOffsets
  /-- A column has more timestamps than values, or fewer. -/
  | unequalLengths
  /-- A row has fewer columns than it must have. -/
  | rowTooShort
  | noColumn
  /-- A record was asked for a field by a number. -/
  | noField
  | absentMember
  | periodReversed (start stop : Timestamp)
  | badGeometry (source : Datum) (fault : GeometryFault)
  | badConstellation (source : Datum)
  | notMergeable (reason : Refusal)
  | badParameter (name value : Datum) (reason : Datum)
  | unknownResultType (type : Datum)
  | fetchSizeNotPositive (size : Datum)
  | noValues (holder : String)
  | stream (source : String) (stage : Stage) (cause : Failure)
  | outage (o : Outage)
  /-- A name that nothing has been stored under. -/
  | unknownName
  deriving Repr

namespace Failure

/-- Failures that a stream reports as they are; it wraps all others. -/
def isQuery : Failure → Bool
  | .stream .. => true
  | .unknownResultType _ => true
  | .outage .query => true
  | _ => false

/-- Failures of the database service itself. -/
def isDatabase : Failure → Bool
  | .outage .database => true
  | _ => false

/-- The wording of a malformed request parameter; an empty reason is left out. -/
def parameterMessage (name value reason : Datum) : String :=
  "Malformed request parameter " ++ name.literal ++ ": " ++ value.literal ++
    (if reason.truthy then " (" ++ reason.display ++ ")" else "")

def mergeMessage (reason : Datum) : String :=
  "Observations cannot be merged: " ++ reason.display

def message : Failure → Option String
  | .immutableConstellation => some "ObservationConstellation is immutable"
  | .unsupported role kind => some ("Unsupported " ++ role.text ++ " " ++ kind)
  | .unsupportedData kind => some ("Data of type " ++ kind ++ " is not supported.")
  | .comparedWithNothing => some "cannot compare ProfileLevel with None"
  | .noTimeIndex => some "series must have a DatetimeIndex"
  | .queryNotText kind => some ("query must be string not <class '" ++ kind ++ "'>")
  | .missingVariable name => some ("Missing environment variable " ++ Text.quote name ++ ".")
  | .variableCast name type value =>
    some ("Could not cast environment variable " ++ Text.quote name ++ " to <class '" ++ type ++
      "'>. Value: " ++ value)
  | .periodReversed start stop =>
    some ("period start " ++ start.text ++ " is after its end " ++ stop.text)
  | .badGeometry source _ =>
    some ("Unable to get Geometry instance from \"" ++ source.display ++ "\"")
  | .badConstellation source =>
    some ("Unable to get ObservationConstellation instance from message \"" ++ source.display ++
      "\"")
  | .notMergeable reason => some (mergeMessage (.text reason.text))
  | .badParameter name value reason => some (parameterMessage name value reason)
  | .unknownResultType type => some ("Unknown observation result type " ++ type.display)
  | .fetchSizeNotPositive size => some ("fetch_size must be positive, not " ++ size.display)
  | .noValues holder => some (holder ++ " has no values")
  | .stream source stage _ => some (source ++ " " ++ stage.text)
  | _ => none

end Failure

/-- Turns a comparison that may be undefined into one that may fail. -/
def ordered (answer : Option Bool) : Except Failure Bool :=
  match answer with
  | some b => .ok b
  | none => .error .unorderable

/-- The size of the set of two members: hashing comes first, then equality decides. -/
def sizeOfPair (hashableA hashableB : Except Failure Bool) (equal : Bool) : Except Failure Nat := do
  if !(← hashableA) then throw .unhashable
  if !(← hashableB) then throw .unhashable
  return if equal then 1 else 2

end SensorSeries
