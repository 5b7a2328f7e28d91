import SensorSeries.Calendar.Timestamp

/-!
# Timestamps in the usual order

A timestamp is usually written from the year down: a year, a month of a year or a day, then a time
of day, a fraction of the second, and the distance from universal time. `Draft` is what such a text
says, `Draft.ofText?` reads it, and `Draft.isPossible` tells whether calendar and clock have what it
says. Where marks stand between the parts of the day, or colons between those of the time, a part
may have one digit only; where none stand it has two.
-/

namespace SensorSeries.Timestamp

/-- Why a text gives no timestamp. -/
inductive Fault where
  | unreadable
  | fieldOutOfRange
  | beyondNanoseconds
  deriving DecidableEq, Repr

/-- The fields of a timestamp as written. -/
structure Draft where
  year : Int
  month : Nat := 1
  day : Nat := 1
  hour : Nat := 0
  minute : Nat := 0
  second : Nat := 0
  nanos : Nat := 0
  /-- The number of digits of the fraction. -/
  fraction : Nat := 0
  /-- Sign, hours and minutes of the distance from universal time. -/
  zone : Option (Bool × Nat × Nat) := none

def natOf (cs : List Char) : Nat := cs.foldl (fun n c => 10 * n + (c.toNat - '0'.toNat)) 0

/-- Exactly `width` digits at the front, and what follows them. -/
def take? (width : Nat) (cs : List Char) : Option (Nat × List Char) :=
  let ds := cs.take width
  if ds.length = width && ds.all Char.isDigit then some (natOf ds, cs.drop width) else none

/-- Two digits at the front, or one if the part need not be padded. -/
def part? (padded : Bool) (cs : List Char) : Option (Nat × List Char) :=
  match take? 2 cs with
  | some r => some r
  | none => if padded then none else take? 1 cs

def isBlank (c : Char) : Bool := c = ' ' || ('\t' ≤ c && c ≤ '\r')

/-- Nanoseconds of a fraction; digits after the ninth are dropped. -/
def nanosOf (ds : List Char) : Nat := natOf ((ds ++ List.replicate 9 '0').take 9)

/-- The marks between the parts of a day. -/
def dateMarks : List Char := ['-', '.', '/', '\\', ' ']

namespace Draft

/-- The distance from universal time, up to the end of the text. -/
def zone? (cs : List Char) : Option (Option (Bool × Nat × Nat)) :=
  match cs.dropWhile isBlank with
  | [] => some none
  | 'Z' :: rest => if rest.all isBlank then some (some (false, 0, 0)) else none
  | sign :: rest =>
    if sign = '+' || sign = '-' then do
      let (hours, rest) ← part? false rest
      if rest.isEmpty then return some (sign == '-', hours, 0)
      let (minutes, rest) ← part? false (if rest.head? = some ':' then rest.drop 1 else rest)
      if rest.all isBlank then return some (sign == '-', hours, minutes) else none
    else none

def withZone? (d : Draft) (cs : List Char) : Option Draft :=
  (zone? cs).map fun zone => { d with zone }

/-- Seconds and their fraction, then the distance from universal time. No fraction has more than
eighteen digits. -/
def second? (d : Draft) (colon : Bool) (cs : List Char) : Option Draft := do
  let (second, rest) ← part? (!colon) cs
  let d := { d with second }
  match rest with
  | '.' :: more =>
    let ds := (more.takeWhile Char.isDigit).take 18
    withZone? { d with nanos := nanosOf ds, fraction := ds.length } (more.drop ds.length)
  | _ => withZone? d rest

/-- Minutes and seconds, each after a colon or none of them. -/
def minute? (d : Draft) (colon : Bool) (cs : List Char) : Option Draft := do
  let (minute, rest) ← part? (!colon) cs
  let d := { d with minute }
  match rest with
  | c :: more =>
    if colon && c = ':' then second? d true more
    else if !colon && c.isDigit then second? d false rest
    else withZone? d rest
  | [] => some d

/-- The time of day. -/
def time? (d : Draft) (cs : List Char) : Option Draft :=
  match part? false cs with
  | some (hour, ':' :: more) => minute? { d with hour } true more
  | _ => do
    let (hour, rest) ← take? 2 cs
    let d := { d with hour }
    if rest.head?.any Char.isDigit then minute? d false rest else withZone? d rest

/-- The year, the month of a year or the day, and what follows it. A month of a year has a mark. -/
def date? (cs : List Char) : Option (Draft × List Char) := do
  let (year, rest) ← take? 4 cs
  match rest with
  | [] => return ({ year }, [])
  | mark :: more =>
    let marked := !mark.isDigit
    if marked && !dateMarks.contains mark then none
    let (month, rest) ← part? (!marked) (if marked then more else rest)
    if rest.isEmpty && marked then return ({ year, month }, [])
    if marked && rest.head? ≠ some mark then none
    let (day, rest) ← part? (!marked) (if marked then rest.drop 1 else rest)
    return ({ year, month, day }, rest)

/-- Reads a whole text. A sign at the front belongs to the year. -/
def ofText? (cs : List Char) : Option Draft := do
  let cs := cs.dropWhile isBlank
  let negative := cs.head? = some '-'
  let (d, rest) ← date? (if negative then cs.drop 1 else cs)
  let d := { d with year := if negative then -d.year else d.year }
  match rest with
  | [] => some d
  | mark :: more => if mark = 'T' || mark = ' ' then time? d more else none

/-- Whether the day, the time and the distance exist; a year may be one without timestamps. -/
def isPossible (d : Draft) : Bool :=
  1 ≤ d.day && d.day ≤ Date.daysIn d.year d.month && d.hour < 24 && d.minute < 60 &&
    d.second < 60 && d.zone.all fun (_, hours, minutes) => hours < 24 && minutes < 60

/-- Microseconds ahead of universal time. -/
def offset (d : Draft) : Option Int :=
  d.zone.map fun (negative, hours, minutes) =>
    let n : Int := (hours * 3600 + minutes * 60 : Nat) * 1000000
    if negative then -n else n

/-- Digits of a fraction from the seventh on are counted by nanoseconds only. -/
def isFine (d : Draft) : Bool := 6 < d.fraction

/-- The timestamp of a possible draft. -/
def toTimestamp (d : Draft) : Except Fault Timestamp :=
  let t := ofParts ⟨d.year, d.month, d.day⟩ d.hour d.minute d.second d.nanos d.offset d.isFine
  if d.year < 1 then .error .unreadable
  else if t.fine && !t.fitsNanoseconds then .error .beyondNanoseconds
  else .ok t

end Draft

end SensorSeries.Timestamp
