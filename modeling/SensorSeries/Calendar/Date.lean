/-!
# Dates

Days of the Gregorian calendar, counted from the first of January 1970. `Date.toDay` and
`Date.ofDay` work on years that begin in March, so that the day a leap year adds is its last.
`Date.ofWeek?` finds a day by its week: weeks begin on Monday, and the first week of a year is the
one that holds the fourth of January.
-/

namespace SensorSeries

structure Date where
  year : Int
  month : Nat
  day : Nat
  deriving DecidableEq, Repr

namespace Date

def isLeap (year : Int) : Bool := year % 4 = 0 && (year % 100 ≠ 0 || year % 400 = 0)

def daysIn (year : Int) (month : Nat) : Nat :=
  match month with
  | 2 => if isLeap year then 29 else 28
  | 4 | 6 | 9 | 11 => 30
  | 1 | 3 | 5 | 7 | 8 | 10 | 12 => 31
  | _ => 0

/-- The month and the day exist, and the year has four digits. -/
def isValid (d : Date) : Bool :=
  1 ≤ d.year && d.year ≤ 9999 && 1 ≤ d.day && d.day ≤ daysIn d.year d.month

/-- Days in the four hundred years after which the calendar repeats. -/
def cycle : Int := 146097

/-- The day of the first of March of the year 0. -/
def origin : Int := 719468

/-- The number of the day. -/
def toDay (d : Date) : Int :=
  let year := if d.month ≤ 2 then d.year - 1 else d.year
  let era := year / 400
  let inEra := year % 400
  let month : Int := (d.month + 9) % 12
  let inYear := (153 * month + 2) / 5 + d.day - 1
  era * cycle + (inEra * 365 + inEra / 4 - inEra / 100 + inYear) - origin

/-- The date of a day. -/
def ofDay (n : Int) : Date :=
  let shifted := n + origin
  let era := shifted / cycle
  let inEra := shifted % cycle
  let year := (inEra - inEra / 1460 + inEra / 36524 - inEra / 146096) / 365
  let inYear := inEra - (365 * year + year / 4 - year / 100)
  let month := (5 * inYear + 2) / 153
  let day := inYear - (153 * month + 2) / 5 + 1
  let civilMonth := if month < 10 then month + 3 else month - 9
  { year := year + era * 400 + (if civilMonth ≤ 2 then 1 else 0)
    month := civilMonth.toNat
    day := day.toNat }

/-- The Monday on or before a day; day 0 is a Thursday. -/
def mondayBefore (n : Int) : Int := n - (n + 3) % 7

/-- The day on which the first week of a year begins. -/
def firstMonday (year : Int) : Int := mondayBefore (toDay ⟨year, 1, 4⟩)

/-- The number of weeks of a year, 52 or 53. -/
def weeksIn (year : Int) : Int := (firstMonday (year + 1) - firstMonday year) / 7

/-- The day of a week, Monday being the first. -/
def ofWeek? (year : Int) (week weekday : Nat) : Option Date :=
  if 1 ≤ week && week ≤ weeksIn year && 1 ≤ weekday && weekday ≤ 7 then
    some (ofDay (firstMonday year + (week - 1) * 7 + (weekday - 1)))
  else none

end Date

end SensorSeries
