import SensorSeries.Datum.Basic
import SensorSeries.Number.Shortest
import SensorSeries.Text.Quoted

/-!
# How data are written

`Datum.literal` writes a datum so that its kind can be seen: a text stands in quotes, a tuple in
parentheses. `Datum.display` differs at the outside only: a text stands as it is, and a timestamp in
its readable form. `Datum.json?` writes the data that JSON knows.
-/

namespace SensorSeries

namespace Timestamp

/-- A constructor call with the fields of the timestamp, trailing zeros left out. -/
def literal (t : Timestamp) : String :=
  let micros := t.nanos / 1000
  let d := t.date
  let fields := [toString d.year, toString d.month, toString d.day, toString t.hour,
    toString t.minute]
  let fields := if t.second = 0 && micros = 0 then fields else fields ++ [toString t.second]
  let fields := if micros = 0 then fields else fields ++ [toString micros]
  let zone := match t.offset with
    | none => []
    | some 0 => ["tzinfo=datetime.timezone.utc"]
    | some o =>
      let parts := [("days=", o / 86400000000), ("seconds=", o / 1000000 % 86400),
        ("microseconds=", o % 1000000)]
      let parts := (parts.filter (·.2 ≠ 0)).map fun (name, n) => name ++ toString n
      ["tzinfo=datetime.timezone(datetime.timedelta(" ++ ", ".intercalate parts ++ "))"]
  "datetime.datetime(" ++ ", ".intercalate (fields ++ zone) ++ ")"

end Timestamp

namespace Datum

mutual

def literal : Datum → String
  | .null => "None"
  | .bool b => if b then "True" else "False"
  | .int n => toString n
  | .num x => x.text
  | .text s => Text.quote s
  | .list items => "[" ++ ", ".intercalate (literalAll items) ++ "]"
  | .tuple items =>
    "(" ++ ", ".intercalate (literalAll items) ++ (if items.length = 1 then ",)" else ")")
  | .record fields => "\x7b" ++ ", ".intercalate (literalFields fields) ++ "\x7d"
  | .time t => t.literal
  | .geometry kind coordinates srid =>
    "Geometry(" ++ literal kind ++ ", " ++ literal coordinates ++ ", srid=" ++
      (match srid with
       | .text s => s
       | .time t => t.text
       | d => literal d) ++ ")"

def literalAll : List Datum → List String
  | [] => []
  | d :: rest => literal d :: literalAll rest

def literalFields : List (String × Datum) → List String
  | [] => []
  | (key, d) :: rest => (Text.quote key ++ ": " ++ literal d) :: literalFields rest

end

def display : Datum → String
  | .text s => s
  | .time t => t.text
  | d => d.literal

/-- JSON has its own words for the numbers that are none or infinite. -/
def jsonStyle : DecimalStyle := { DecimalStyle.plain with nan := "NaN", infinity := "Infinity" }

mutual

/-- The JSON text of a datum; timestamps and geometries have none. -/
def json? : Datum → Option String
  | .null => some "null"
  | .bool b => some (if b then "true" else "false")
  | .int n => some (toString n)
  | .num x => some (x.textIn jsonStyle)
  | .text s => some (Text.jsonQuote s)
  | .list items => (jsonAll? items).map fun parts => "[" ++ ", ".intercalate parts ++ "]"
  | .tuple items => (jsonAll? items).map fun parts => "[" ++ ", ".intercalate parts ++ "]"
  | .record fields =>
    (jsonFields? fields).map fun parts => "\x7b" ++ ", ".intercalate parts ++ "\x7d"
  | .time _ => none
  | .geometry .. => none

def jsonAll? : List Datum → Option (List String)
  | [] => some []
  | d :: rest => do
    let first ← json? d
    let others ← jsonAll? rest
    return first :: others

def jsonFields? : List (String × Datum) → Option (List String)
  | [] => some []
  | (key, d) :: rest => do
    let first ← json? d
    let others ← jsonFields? rest
    return (Text.jsonQuote key ++ ": " ++ first) :: others

end

end Datum

/-- An optional text as it is written in a record: quoted, or the word for nothing. -/
def optionLiteral (s : Option String) : String := (s.map Text.quote).getD "None"

end SensorSeries
