import SensorSeries.Number.Numeral
import SensorSeries.Failure
import SensorSeries.Text.LowerCase

/-!
# Settings

Settings are read from named variables. A variable may be cast to a type; the word for nothing makes
it null, unless that is switched off. A flag is on unless its variable is missing or holds one of a
list of words, whatever the case of its letters.
-/

namespace SensorSeries

/-- The variables that are set. -/
abbrev Variables := List (String × String)

namespace Settings

def lookup? (vars : Variables) (name : String) : Option String :=
  (vars.find? (·.1 == name)).map (·.2)

/-- What a variable can be cast to. -/
inductive Cast where
  | int
  | float
  | bool
  | text
  deriving DecidableEq, Repr

def Cast.typeName : Cast → String
  | .int => "int"
  | .float => "float"
  | .bool => "bool"
  | .text => "str"

/-- The words for "off". -/
def offWords : List String := ["no", "false", "0", "null", "none"]

/-- Whether a flag is on. -/
def flag (vars : Variables) (name : String) (off : List String) (emptyIsOff : Bool) : Bool :=
  match lookup? vars name with
  | none => false
  | some s => if s = "" then !emptyIsOff else !off.contains (Text.lower s)

/-- The datum that a text is cast to, if it can be. -/
def Cast.apply? (vars : Variables) (name value : String) : Cast → Option Datum
  | .int => (Numeral.integer? value).map .int
  | .float => (Numeral.decimal? value).map .num
  | .bool => some (.bool (flag vars name offWords false))
  | .text => some (.text value)

/-- The value of a variable. A missing one has a default or is a failure. -/
def get (vars : Variables) (name : String) (default : Option Datum) (cast : Option Cast)
    (nothingIsNull : Bool) : Except Failure Datum :=
  match lookup? vars name, default with
  | none, some d => .ok d
  | none, none => .error (.missingVariable name)
  | some value, _ =>
    if value = "None" && nothingIsNull then .ok .null
    else
      match cast with
      | none => .ok (.text value)
      | some c =>
        match c.apply? vars name value with
        | some d => .ok d
        | none => .error (.variableCast name c.typeName value)

end Settings

end SensorSeries
