import SensorSeries.Calendar.Draft

/-!
# Timestamps in the form of ISO 8601

A day, a mark of any kind, a time of day, and the distance from universal time. Between the parts of
a day stand hyphens or nothing, between those of a time of day colons or nothing. A day is named by
its month or by its week. The time of day and the distance may both go down to the microsecond.
Unlike `read` this knows no words for a missing timestamp. Such a timestamp never counts
nanoseconds.

A time of day is read as far as it goes (`ClockFace.read?`). What is left of it is passed over
where the distance from universal time follows, and refused at the end of the text.
-/

namespace SensorSeries.Timestamp

/-- What a clock shows: hours, minutes, seconds and microseconds. -/
structure ClockFace where
  hour : Nat
  minute : Nat := 0
  second : Nat := 0
  micros : Nat := 0

namespace ClockFace

/-- A fraction of a second: microseconds and what is left. It is a text of digits; the digits after
the sixth do not count, and the first of them that is none ends the fraction. -/
def fraction? (cs : List Char) : Option (Nat × List Char) :=
  let ds := cs.take 6
  if ds.isEmpty || !ds.all Char.isDigit then none
  else
    some (natOf ((ds ++ List.replicate 6 '0').take 6), (cs.drop 6).dropWhile Char.isDigit)

/-- As many parts as there are, up to a number of them; the microseconds of the last; what is left.
The parts of one text stand all after colons or all together, and `colon` tells which, once that is
known. A fraction may follow every part. A single character after a part is left. -/
def parts? (colon : Option Bool) : Nat → List Char → Option (List Nat × Nat × List Char)
  | 0, cs => (fraction? cs).map fun (micros, rest) => ([], micros, rest)
  | count + 1, cs => do
    let (part, rest) ← take? 2 cs
    match rest with
    | [] => some ([part], 0, [])
    | c :: more =>
      if more.isEmpty && c.val < 128 then some ([part], 0, rest)
      else
        let colon := colon.getD (c = ':')
        let (parts, micros, rest) ←
          if colon && c = ':' then parts? colon count more
          else if c = '.' || c = ',' then parts? colon 0 more
          else if colon then none
          else parts? colon count rest
        some (part :: parts, micros, rest)

/-- Hours, minutes and seconds, and what is left of the text. -/
def read? (cs : List Char) : Option (ClockFace × List Char) := do
  let (parts, micros, rest) ← parts? none 3 cs
  some ({ hour := parts.getD 0 0, minute := parts.getD 1 0, second := parts.getD 2 0, micros },
    rest)

def isValid (f : ClockFace) : Bool := f.hour < 24 && f.minute < 60 && f.second < 60

def toMicros (f : ClockFace) : Nat :=
  ((f.hour * 60 + f.minute) * 60 + f.second) * 1000000 + f.micros

end ClockFace

/-- Microseconds in a day; no clock is so far from universal time. -/
def microsPerDay : Nat := 86400 * 1000000

/-- The distance from universal time, of which only the whole is bounded. One below a second is
none. -/
def isoOffset? : List Char → Option Int
  | ['Z'] => some 0
  | 'Z' :: _ => none
  | sign :: cs => do
    let (face, rest) ← ClockFace.read? cs
    let distance := face.toMicros
    if !rest.isEmpty || microsPerDay ≤ distance then none
    else if distance < 1000000 then some 0
    else some (if sign = '-' then -(distance : Int) else distance)
  | [] => none

def isZoneMark (c : Char) : Bool := c = '+' || c = '-' || c = 'Z'

/-- The time of day and the distance from universal time, on a day. -/
def isoTime? (day : Date) (cs : List Char) : Option Timestamp := do
  let (face, rest) ← ClockFace.read? (cs.takeWhile fun c => !isZoneMark c)
  let zone := cs.dropWhile fun c => !isZoneMark c
  let offset ←
    if zone.isEmpty then (if rest.isEmpty then some none else none)
    else (isoOffset? zone).map some
  if face.isValid then
    some (ofParts day face.hour face.minute face.second (face.micros * 1000) offset false)
  else none

/-- The digit of a weekday, and what follows it. Where it could as well belong to what follows, a
hyphen before two digits is a mark, and digits without hyphens are in pairs from the end. -/
def weekday? (hyphen : Bool) (cs : List Char) : Option (Nat × List Char) :=
  if hyphen then
    match cs with
    | ['-'] => none
    | '-' :: d :: rest =>
      if (rest.head?.map Char.isDigit).getD false then some (1, cs) else take? 1 (d :: rest)
    | _ => some (1, cs)
  else
    let width := (cs.takeWhile Char.isDigit).length
    if width = 1 || (width ≠ 0 && width % 2 = 0) then take? 1 cs else some (1, cs)

/-- A day with hyphens or without, and what follows it. -/
def isoDate? (cs : List Char) : Option (Date × List Char) := do
  let (year, rest) ← take? 4 cs
  let hyphen := rest.head? == some '-'
  let skip (cs : List Char) : List Char := if hyphen then cs.drop 1 else cs
  let (date, rest) ← match skip rest with
    | 'W' :: rest => do
      let (week, rest) ← take? 2 rest
      let (weekday, rest) ← weekday? hyphen rest
      (Date.ofWeek? year week weekday).map (·, rest)
    | rest => do
      let (month, rest) ← take? 2 rest
      if hyphen && rest.head? != some '-' then none
      let (day, rest) ← take? 2 (skip rest)
      some (⟨year, month, day⟩, rest)
  if date.isValid then some (date, rest) else none

def ofIso? (s : String) : Option Timestamp := do
  match ← isoDate? s.toList with
  | (date, []) => some (ofParts date 0 0 0 0 none false)
  | (date, _ :: cs) => isoTime? date cs

end SensorSeries.Timestamp
