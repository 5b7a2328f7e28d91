import SensorSeries.Calendar.Reading
import SensorSeries.Failure

/-!
# Instants

An instant is a single point in time. Where it has no timestamp it may still say something: an
indeterminate position, or why there is none. `isBefore` orders instants; those without a timestamp
come before all others.
-/

namespace SensorSeries

/-- Reads the words of a closed list. -/
def wordOf {α : Type} (words : List (String × α)) (s : String) : Except Failure α :=
  match words.find? (·.1 == s) with
  | some (_, a) => .ok a
  | none => .error .unknownWord

inductive Indeterminate where
  | after
  | before
  | now
  | unknown
  | template
  deriving DecidableEq, Repr

namespace Indeterminate

def text : Indeterminate → String
  | .after => "after"
  | .before => "before"
  | .now => "now"
  | .unknown => "unknown"
  | .template => "template"

def ofText (s : String) : Except Failure Indeterminate :=
  wordOf ([.after, .before, .now, .unknown, .template].map fun i => (i.text, i)) s

end Indeterminate

inductive NilReason where
  | inapplicable
  | missing
  | template
  | unknown
  | withheld
  deriving DecidableEq, Repr

namespace NilReason

def text : NilReason → String
  | .inapplicable => "inapplicable"
  | .missing => "missing"
  | .template => "template"
  | .unknown => "unknown"
  | .withheld => "withheld"

def ofText (s : String) : Except Failure NilReason :=
  wordOf ([.inapplicable, .missing, .template, .unknown, .withheld].map fun r => (r.text, r)) s

end NilReason

/-- The naive timestamp of a number of nanoseconds; the least number of 64 bits is for a missing
one. -/
def Timestamp.ofNanos (n : Int) : Except Failure (Option Timestamp) :=
  if n = -Timestamp.nanosecondBound then .ok none
  else if Timestamp.isNanosecondCount n then
    .ok (some { shown := n, offset := none, fine := true })
  else .error (.badTimestamp false)

/-- Reads a text as a timestamp; a missing one is none. -/
def Timestamp.ofText (s : String) : Except Failure (Option Timestamp) :=
  match Timestamp.read s with
  | .ok t => .ok t
  | .error .fieldOutOfRange => .error (.badTimestamp true)
  | .error .unreadable => .error (.badTimestamp false)
  | .error .beyondNanoseconds => .error (.badTimestamp false)

/-- The timestamp that a datum stands for: itself, a text to read, or a count of nanoseconds. -/
def Datum.toTimestamp : Datum → Except Failure (Option Timestamp)
  | .null => .ok none
  | .text s => Timestamp.ofText s
  | .time t => .ok (some t.recounted)
  | .int n => Timestamp.ofNanos n
  | .num .nan => .ok none
  | .num (.infinite _) => .error .beyondNanoseconds
  | .num (.finite negative units) =>
    let n : Int := (units / Position.one : Nat)
    Timestamp.ofNanos (if negative then -n else n)
  | _ => .error .wrongKind

structure Instant where
  value : Option Timestamp
  indeterminate : Option Indeterminate
  nilReason : Option NilReason
  deriving DecidableEq, Repr

namespace Instant

def ofTimestamp (t : Option Timestamp) : Instant := ⟨t, none, none⟩

/-- Reads the three fields in order. -/
def ofTexts (value indeterminate nilReason : Option String) : Except Failure Instant := do
  let value ← match value with
    | none => .ok none
    | some s => Timestamp.ofText s
  let indeterminate ← indeterminate.mapM Indeterminate.ofText
  let nilReason ← nilReason.mapM NilReason.ofText
  return { value, indeterminate, nilReason }

/-- The time of an observation that is only a template. -/
def template : Instant := ⟨none, some .template, none⟩

def isSet (i : Instant) : Bool :=
  i.value.isSome || i.indeterminate.isSome || i.nilReason.isSome

def isEmpty (i : Instant) : Bool := !i.isSet

def isTemplate (i : Instant) : Bool :=
  i.indeterminate == some .template || i.nilReason == some .template

/-- Whether `a` lies before `b`. An instant without timestamp lies before every one that has it. -/
def isBefore (a b : Instant) : Except Failure Bool :=
  match a.value, b.value with
  | _, none => .ok false
  | none, some _ => .ok true
  | some s, some t => ordered (s.before? t)

def sameTimestamp : Option Timestamp → Option Timestamp → Bool
  | none, none => true
  | some s, some t => s.same t
  | _, _ => false

def same (a b : Instant) : Bool :=
  sameTimestamp a.value b.value && a.indeterminate == b.indeterminate &&
    a.nilReason == b.nilReason

def literal (i : Instant) : String :=
  match i.value with
  | some t => "TimeInstant(" ++ t.iso ++ ")"
  | none =>
    "TimeInstant(indeterminate=" ++ ((i.indeterminate.map (·.text)).getD "None") ++
      ", nil_reason=" ++ ((i.nilReason.map (·.text)).getD "None") ++ ")"

end Instant

end SensorSeries
