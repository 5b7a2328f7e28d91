import SensorSeries.Calendar.Draft

/-!
# Days with the year last

A day may also be written with its year last: month, day and year with a mark after each of the
first two, or the month of a year. Month and day have one digit or two, a month without a day has
two, and the year has four and is not below a thousand. A first number that is no month is the day,
and the second one is the month.
-/

namespace SensorSeries.Timestamp

/-- Such a day as written. -/
structure YearLast where
  month : Nat
  /-- No day for the month of a year. -/
  day : Option Nat
  year : Nat
  deriving DecidableEq, Repr

namespace YearLast

/-- The marks between the parts. -/
def marks : List Char := [' ', '/', '-', '.']

/-- The year at the end of a text. -/
def year? (cs : List Char) : Option Nat := do
  let (year, rest) ← take? 4 cs
  if rest.isEmpty && 1000 ≤ year then some year else none

/-- Reads a whole text. Two numbers with a point between them are no month of a year. -/
def ofText? (cs : List Char) : Option YearLast := do
  let (month, rest) ← part? false cs
  let mark ← rest.head?
  if !marks.contains mark then none
  match year? (rest.drop 1) with
  | some year => if mark ≠ '.' && (take? 2 cs).isSome then some ⟨month, none, year⟩ else none
  | none =>
    let (day, rest) ← part? false (rest.drop 1)
    if !(rest.head?.any marks.contains) then none
    return ⟨month, some day, ← year? (rest.drop 1)⟩

/-- The day, or the first day of the month of a year. -/
def date (d : YearLast) : Date :=
  match d.day with
  | none => ⟨d.year, d.month, 1⟩
  | some day => if 12 < d.month then ⟨d.year, day, d.month⟩ else ⟨d.year, d.month, day⟩

/-- The midnight of the day, if the calendar has such a day. -/
def toTimestamp (d : YearLast) : Except Fault Timestamp :=
  if d.date.isValid then .ok (ofParts d.date 0 0 0 0 none false) else .error .unreadable

end YearLast

end SensorSeries.Timestamp
