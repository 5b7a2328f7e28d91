import SensorSeries.Datum.Literal
import SensorSeries.Series.Column

/-!
# Tables

A column written as a table: a line of headings, then a line with timestamp and value for every
entry. A comma separates the cells of a line. A cell stands between quotes only if it would be
read otherwise without them.

Timestamps are written alike in the whole table: as dates if all of them are naive midnights, else
with the places of a second that the finest of them needs, and with their distance from universal
time if they have one. The year of a naive timestamp is not filled up to four digits.
-/

namespace SensorSeries

namespace Cell

/-- Whether a cell holds the character that ends cells, the one that ends lines, or a quote. -/
def needsQuotes (s : String) : Bool := s.toList.any fun c => c = ',' || c = '"' || c = '\n'

def write (s : String) : String := if needsQuotes s then Text.quoteName s else s

/-- A missing datum leaves the cell empty, and so does a NaN. -/
def ofDatum : Datum → String
  | .null => ""
  | .num .nan => ""
  | d => d.display

def ofEntry : Entry → String
  | .plain d => ofDatum d
  | .scalar d => ofDatum d
  | .value v => v.literal

end Cell

namespace Timestamp

/-- The timestamp as an index shows it: universal time, moved by the whole seconds of the distance
from it. -/
def inIndex (t : Timestamp) : Timestamp :=
  match t.offset with
  | none => t
  | some o => { t with shown := t.position + Int.tdiv o 1000000 * nanosPerSecond }

def isNaiveMidnight (t : Timestamp) : Bool := !t.isAware && t.timeOfDay = 0

/-- Three, six or nine places of a second, or none: the fewest that lose nothing. -/
def placesByThree (t : Timestamp) : Nat :=
  if t.nanos = 0 then 0
  else if t.nanos % 1000000 = 0 then 3
  else if t.nanos % 1000 = 0 then 6
  else 9

end Timestamp

namespace Column

/-- How the timestamps of an index are written. -/
inductive ClockStyle where
  | dates
  | seconds (places : Nat)
  deriving DecidableEq, Repr

/-- The coarsest style that shows all of the timestamps. -/
def clockStyle (timestamps : List Timestamp) : ClockStyle :=
  if timestamps.all (·.isNaiveMidnight) then .dates
  else .seconds (timestamps.foldl (fun n t => max n t.placesByThree) 0)

/-- The day of a timestamp. -/
def dayText (t : Timestamp) : String :=
  if t.isAware then t.dateText else toString t.date.year ++ "-" ++ t.monthText

def timestampText (style : ClockStyle) (t : Timestamp) : String :=
  match style with
  | .dates => dayText t
  | .seconds places =>
    dayText t ++ " " ++ t.clockText ++ t.fractionText places ++ t.offsetText

def line (cells : List String) : String := ",".intercalate (cells.map Cell.write) ++ "\n"

/-- The table with a heading for the timestamps and one for the values. -/
def table (c : Column TimeIndex) (timeHeading valueHeading : String) : String :=
  let index := (c.index.elim [] (·.timestamps)).map (·.map (·.inIndex))
  let style := clockStyle (index.filterMap id)
  let row (t : Option Timestamp) (e : Entry) : String :=
    line [(t.map (timestampText style)).getD "", Cell.ofEntry e]
  line [timeHeading, valueHeading] ++ String.join (index.zipWith row c.values)

end Column

end SensorSeries
