import SensorSeries.Attempt
import SensorSeries.Time.Instant

/-!
# Periods and times

A period has a start and an end, each of which may be open. `Period.make` refuses a start after the
end; `Period.extend` widens a period to cover a time as well. A `Time` is an instant, a period, or a
datum that is neither.
-/

namespace SensorSeries

structure Period where
  start : Option Timestamp
  stop : Option Timestamp
  deriving DecidableEq, Repr

inductive Time where
  | instant (i : Instant)
  | period (p : Period)
  | other (d : Datum)
  deriving Repr

namespace Period

/-- The period that covers no time yet. -/
def empty : Period := ⟨none, none⟩

def make (start stop : Option Timestamp) : Except Failure Period :=
  match start, stop with
  | some s, some e => do
    if ← ordered (e.before? s) then throw (.periodReversed s e)
    return ⟨start, stop⟩
  | _, _ => .ok ⟨start, stop⟩

def isEmpty (p : Period) : Bool := p.start.isNone && p.stop.isNone

def isSet (p : Period) : Bool := !p.isEmpty

/-- The earlier of two timestamps, the first if they are the same; a missing one does not count. -/
def earlier : Option Timestamp → Option Timestamp → Except Failure (Option Timestamp)
  | none, t => .ok t
  | s, none => .ok s
  | some s, some t => do return some (if ← ordered (t.before? s) then t else s)

/-- The later of two timestamps, the first if they are the same; a missing one does not count. -/
def later : Option Timestamp → Option Timestamp → Except Failure (Option Timestamp)
  | none, t => .ok t
  | s, none => .ok s
  | some s, some t => do return some (if ← ordered (s.before? t) then t else s)

/-- Widens the start, then the end. If the ends cannot be compared the start stays widened. -/
def cover (p : Period) (start stop : Option Timestamp) : Except (Stopped Period) Period := do
  let start ← Attempt.orLeave p (earlier start p.start)
  let stop ← Attempt.orLeave { p with start } (later stop p.stop)
  return ⟨start, stop⟩

/-- Widens the period to cover a time as well. -/
def extend (p : Period) : Option Time → Attempt Period
  | none => .ok p
  | some (.instant i) => p.cover i.value i.value
  | some (.period q) => p.cover q.start q.stop
  | some (.other d) => .error ⟨.unsupported .time d.kindName, p⟩

/-- Covers all the times of a list, in order. -/
def extendAll (p : Period) (times : List (Option Time)) : Except Failure Period :=
  times.foldlM (fun p t => (p.extend t).result) p

def same (p q : Period) : Bool :=
  Instant.sameTimestamp p.start q.start && Instant.sameTimestamp p.stop q.stop

def boundText (t : Option Timestamp) : String := (t.map (·.text)).getD "None"

def literal (p : Period) : String :=
  "TimePeriod(" ++ boundText p.start ++ ", " ++ boundText p.stop ++ ")"

end Period

namespace Time

/-- Whether the time says anything. A datum that is no time cannot be asked. -/
def isSet : Time → Except Failure Bool
  | .instant i => .ok i.isSet
  | .period p => .ok p.isSet
  | .other _ => .error .noAttribute

def isEmpty : Time → Except Failure Bool
  | .instant i => .ok i.isEmpty
  | .period p => .ok p.isEmpty
  | .other _ => .error .noAttribute

def same : Time → Time → Bool
  | .instant a, .instant b => a.same b
  | .period p, .period q => p.same q
  | .other a, .other b => a == b
  | _, _ => false

def sameOption : Option Time → Option Time → Bool
  | none, none => true
  | some a, some b => a.same b
  | _, _ => false

def hashable : Time → Bool
  | .other d => d.hashable
  | _ => true

def kindName : Option Time → String
  | none => Datum.null.kindName
  | some (.instant _) => "TimeInstant"
  | some (.period _) => "TimePeriod"
  | some (.other d) => d.kindName

def literal : Time → String
  | .instant i => i.literal
  | .period p => p.literal
  | .other d => d.literal

def optionLiteral (t : Option Time) : String := (t.map literal).getD "None"

/-- The timestamp that a sample taken at this time refers to: of the instant, or of the end of the
period. -/
def timestamp : Option Time → Except Failure (Option Timestamp)
  | some (.instant i) => .ok i.value
  | some (.period p) => .ok p.stop
  | t => .error (.unsupported .time (kindName t))

/-- An unset time is no time. -/
def isSetOption : Option Time → Except Failure Bool
  | none => .ok false
  | some t => t.isSet

end Time

end SensorSeries
