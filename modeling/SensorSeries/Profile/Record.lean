import SensorSeries.Value.Basic

/-!
# Data records

An ordered list of named fields. Names need not differ: a look-up finds the first field of a name.
-/

namespace SensorSeries

structure DataField where
  name : String
  element : Option Value
  deriving Repr

namespace DataField

def same (a b : DataField) : Bool :=
  a.name == b.name && sameOption Value.same a.element b.element

def literal (f : DataField) : String :=
  "Field(" ++ Text.quote f.name ++ ", " ++ Value.optionLiteral f.element ++ ")"

end DataField

structure DataRecord where
  fields : List DataField := []
  deriving Repr

namespace DataRecord

def empty : DataRecord := {}

def add (r : DataRecord) (f : DataField) : DataRecord := ⟨r.fields ++ [f]⟩

def addAll (r : DataRecord) (fs : List DataField) : DataRecord := ⟨r.fields ++ fs⟩

def names (r : DataRecord) : List String := r.fields.map (·.name)

def get? (r : DataRecord) (name : String) : Option DataField :=
  r.fields.find? (·.name == name)

def literal (r : DataRecord) : String :=
  "DataRecord([" ++ ", ".intercalate (r.fields.map (·.literal)) ++ "])"

end DataRecord

end SensorSeries
