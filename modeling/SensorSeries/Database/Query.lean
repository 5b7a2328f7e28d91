import SensorSeries.Failure
import SensorSeries.Journal
import SensorSeries.Text.Blank

/-!
# Queries

The three questions that a stream asks an observation database, each with the name of the schema
left open. `sql` is the text that is executed: the schema is a quoted name in it, and blanks do
not count. A query is written to the journal with its text left open.
-/

namespace SensorSeries

inductive Query where
  | samples
  | times
  | unit
  deriving DecidableEq, Repr

namespace Query

/-- The text around the places where the schema stands. -/
def parts : Query → List String
  | .samples =>
    ["\n    select o.\"PHENOMENON_TIME_START\", o.\"PHENOMENON_TIME_END\", o.\"RESULT_TIME\",\n" ++
      "        o.\"RESULT_TYPE\", o.\"RESULT_NUMBER\", o.\"RESULT_STRING\", o.\"RESULT_JSON\",\n" ++
      "        o.\"RESULT_BOOLEAN\", o.\"RESULT_QUALITY\"\n    from ",
     ".\"OBSERVATIONS\" o\n    where o.\"DATASTREAM_ID\" = %s\n" ++
      "      and o.\"PHENOMENON_TIME_START\" >= %s\n" ++
      "      and o.\"PHENOMENON_TIME_START\" <= %s\n" ++
      "    order by o.\"PHENOMENON_TIME_START\" asc\n    "]
  | .times =>
    ["\n    select min(o.\"PHENOMENON_TIME_START\"),\n" ++
      "        max(coalesce(o.\"PHENOMENON_TIME_END\", o.\"PHENOMENON_TIME_START\")),\n" ++
      "        max(o.\"RESULT_TIME\"), min(o.\"VALID_TIME_START\"), max(o.\"VALID_TIME_END\")\n" ++
      "    from ",
     ".\"OBSERVATIONS\" o\n    where o.\"DATASTREAM_ID\" = %s\n" ++
      "      and o.\"PHENOMENON_TIME_START\" >= %s\n" ++
      "      and o.\"PHENOMENON_TIME_START\" <= %s\n    "]
  | .unit =>
    ["\n    select d.\"UNIT_SYMBOL\" from ", ".\"DATASTREAMS\" d where d.\"ID\" = %s\n    "]

/-- The text with the schema left open. -/
def text (q : Query) : String := "\x7bschema\x7d".intercalate q.parts

def sql (q : Query) (schema : String) : String :=
  Text.squeeze ((Text.quoteName schema).intercalate q.parts)

/-- The journal entry of a query text with parameters, or without any. -/
def journalEntry (source text : String) (params : Option Datum) : JournalEntry :=
  .debug source ("\n\tQUERY: " ++ Text.quote text ++ "\n\tPARAMS: " ++
    (match params with
     | some d => d.display
     | none => "--"))

/-- The journal entry of a datum that should be a query text. -/
def journalEntryOf (source : String) (text : Datum) (params : Option Datum) :
    Except Failure JournalEntry :=
  match text with
  | .text s => .ok (journalEntry source s params)
  | d => .error (.queryNotText d.fullKindName)

end Query

end SensorSeries
