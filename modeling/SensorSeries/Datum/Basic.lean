import SensorSeries.Number.Binary64
import SensorSeries.Calendar.Timestamp

/-!
# Data of any kind

`Datum` is a value whose kind is known only when it is looked at: a cell of a result column, an
option of a request, a coordinate. `beq` compares two data by what they denote, so `1`, `1.0` and
`true` are equal and a NaN equals nothing. `before?` orders numbers, texts, timestamps and
sequences, and is undefined where one kind cannot be ordered against another. Both work on the
normal form `canon`, in which a geometry is written by its key.
-/

namespace SensorSeries

inductive Datum where
  | null
  | bool (b : Bool)
  | int (n : Int)
  | num (x : Binary64)
  | text (s : String)
  | list (items : List Datum)
  | tuple (items : List Datum)
  | record (fields : List (String × Datum))
  | time (t : Timestamp)
  | geometry (kind coordinates srid : Datum)
  deriving Repr

namespace Datum

instance : Inhabited Datum := ⟨.null⟩

/-- The word for the kind of a datum. -/
def kindName : Datum → String
  | .null => "NoneType"
  | .bool _ => "bool"
  | .int _ => "int"
  | .num _ => "float"
  | .text _ => "str"
  | .list _ => "list"
  | .tuple _ => "tuple"
  | .record _ => "dict"
  | .time _ => "datetime"
  | .geometry .. => "Geometry"

/-- The word for the kind of a datum, behind the name of the part that it belongs to. -/
def fullKindName : Datum → String
  | .time _ => "datetime.datetime"
  | .geometry .. => "omobs.geometry.Geometry"
  | d => d.kindName

/-- Whether the datum counts as something: not null, false, zero or empty. -/
def truthy : Datum → Bool
  | .null => false
  | .bool b => b
  | .int n => n != 0
  | .num x => x.truthy
  | .text s => s != ""
  | .list items => !items.isEmpty
  | .tuple items => !items.isEmpty
  | .record fields => !fields.isEmpty
  | .time _ => true
  | .geometry .. => true

/-- Puts a field into a record: a known key keeps its place and takes the new value. -/
def setField (fields : List (String × Datum)) (key : String) (value : Datum) :
    List (String × Datum) :=
  if fields.any (·.1 == key) then fields.map fun f => if f.1 == key then (key, value) else f
  else fields ++ [(key, value)]

def ofFields (fields : List (String × Datum)) : Datum :=
  .record (fields.foldl (fun acc f => setField acc f.1 f.2) [])

def field? (fields : List (String × Datum)) (key : String) : Option Datum :=
  (fields.find? (·.1 == key)).map (·.2)

def isNaN : Datum → Bool
  | .num .nan => true
  | _ => false

/-- What can be taken out of a datum one after the other: the items of a sequence, the characters of
a text, the keys of a record. -/
def elements? : Datum → Option (List Datum)
  | .list items => some items
  | .tuple items => some items
  | .text s => some (s.toList.map fun c => .text (String.singleton c))
  | .record fields => some (fields.map fun f => .text f.1)
  | _ => none

/-- The items of a list or tuple. -/
def items? : Datum → Option (List Datum)
  | .list items => some items
  | .tuple items => some items
  | _ => none

/-! ## Normal form -/

mutual

/-- Coordinates for comparison: lists and tuples of coordinates are the same. -/
def canonCoordinates : Datum → Datum
  | .list items => .tuple (canonCoordinatesAll items)
  | .tuple items => .tuple (canonCoordinatesAll items)
  | .geometry kind coordinates srid =>
    .geometry (if kind.truthy then canon kind else .text "") (canonCoordinates coordinates)
      (canon srid)
  | .record fields => .record (canonFields fields)
  | d => d

def canonCoordinatesAll : List Datum → List Datum
  | [] => []
  | d :: rest => canonCoordinates d :: canonCoordinatesAll rest

/-- The normal form: every geometry in it is written by its key. -/
def canon : Datum → Datum
  | .list items => .list (canonAll items)
  | .tuple items => .tuple (canonAll items)
  | .record fields => .record (canonFields fields)
  | .geometry kind coordinates srid =>
    .geometry (if kind.truthy then canon kind else .text "") (canonCoordinates coordinates)
      (canon srid)
  | d => d

def canonAll : List Datum → List Datum
  | [] => []
  | d :: rest => canon d :: canonAll rest

def canonFields : List (String × Datum) → List (String × Datum)
  | [] => []
  | (key, d) :: rest => (key, canon d) :: canonFields rest

end

/-! ## Equality -/

/-- The number that a datum is, if it is one. The inner `none` is a NaN. -/
def number? : Datum → Option (Option Position)
  | .bool b => some (some (.ofInt (if b then 1 else 0)))
  | .int n => some (some (.ofInt n))
  | .num x => some x.position?
  | _ => none

/-- Whether two data are one number. -/
def sameNumber (a b : Datum) : Bool :=
  match a.number?, b.number? with
  | some (some p), some (some q) => p == q
  | _, _ => false

mutual

/-- Equality of two normal forms. -/
def beqCanon : Datum → Datum → Bool
  | .null, b => match b with
    | .null => true
    | _ => false
  | .text s, b => match b with
    | .text t => s == t
    | _ => false
  | .time s, b => match b with
    | .time t => s.same t
    | _ => false
  | .list xs, b => match b with
    | .list ys => beqAll xs ys
    | _ => false
  | .tuple xs, b => match b with
    | .tuple ys => beqAll xs ys
    | _ => false
  | .record fields, b => match b with
    | .record others => fields.length == others.length && beqFields fields others
    | _ => false
  | .geometry k c s, b => match b with
    | .geometry k' c' s' => beqCanon k k' && beqCanon c c' && beqCanon s s'
    | _ => false
  | .bool x, b => sameNumber (.bool x) b
  | .int x, b => sameNumber (.int x) b
  | .num x, b => sameNumber (.num x) b

def beqAll : List Datum → List Datum → Bool
  | [], [] => true
  | x :: xs, y :: ys => beqCanon x y && beqAll xs ys
  | _, _ => false

/-- Every field of the first has an equal one in the second; the order does not matter. -/
def beqFields : List (String × Datum) → List (String × Datum) → Bool
  | [], _ => true
  | (key, d) :: rest, others =>
    (match field? others key with
     | some e => beqCanon d e
     | none => false) && beqFields rest others

end

/-- Whether two data denote the same. -/
def beq (a b : Datum) : Bool := beqCanon a.canon b.canon

instance : BEq Datum := ⟨beq⟩

/-! ## Identity -/

mutual

/-- Whether two data are one in every respect. Unlike equality it tells `1` from `1.0`, and holds
between a NaN and itself. -/
def identical : Datum → Datum → Bool
  | .null, .null => true
  | .bool a, .bool b => a == b
  | .int a, .int b => a == b
  | .num a, .num b => decide (a = b)
  | .text a, .text b => a == b
  | .time a, .time b => decide (a = b)
  | .list xs, .list ys => identicalAll xs ys
  | .tuple xs, .tuple ys => identicalAll xs ys
  | .record fields, .record others => identicalFields fields others
  | .geometry k c s, .geometry k' c' s' => identical k k' && identical c c' && identical s s'
  | _, _ => false

def identicalAll : List Datum → List Datum → Bool
  | [], [] => true
  | x :: xs, y :: ys => identical x y && identicalAll xs ys
  | _, _ => false

def identicalFields : List (String × Datum) → List (String × Datum) → Bool
  | [], [] => true
  | (k, x) :: xs, (l, y) :: ys => k == l && identical x y && identicalFields xs ys
  | _, _ => false

end

/-! ## Order -/

/-- Order of numbers. A NaN comes neither before nor after any number. -/
def beforeNumber? (a b : Datum) : Option Bool :=
  match a.number?, b.number? with
  | some p, some q =>
    match p, q with
    | some p, some q => some (p.lt q)
    | _, _ => some false
  | _, _ => none

mutual

/-- Whether the first normal form comes before the second; `none` if their kinds have no order. -/
def beforeCanon? : Datum → Datum → Option Bool
  | .text s, b => match b with
    | .text t => some (decide (s < t))
    | _ => none
  | .time s, b => match b with
    | .time t => s.before? t
    | _ => none
  | .list xs, b => match b with
    | .list ys => beforeAll? xs ys
    | _ => none
  | .tuple xs, b => match b with
    | .tuple ys => beforeAll? xs ys
    | _ => none
  | .bool x, b => beforeNumber? (.bool x) b
  | .int x, b => beforeNumber? (.int x) b
  | .num x, b => beforeNumber? (.num x) b
  | .null, _ => none
  | .record _, _ => none
  | .geometry .., _ => none

/-- Sequences are ordered at the first place where they are not equal; a proper beginning comes
first. -/
def beforeAll? : List Datum → List Datum → Option Bool
  | [], ys => some (!ys.isEmpty)
  | _ :: _, [] => some false
  | x :: xs, y :: ys => if beqCanon x y then beforeAll? xs ys else beforeCanon? x y

end

/-- Whether the first datum comes before the second; `none` if they cannot be ordered. -/
def before? (a b : Datum) : Option Bool := beforeCanon? a.canon b.canon

/-! ## Hashing -/

mutual

/-- Whether a normal form can be a member of a set: lists and records cannot. -/
def hashableCanon : Datum → Bool
  | .list _ => false
  | .record _ => false
  | .tuple items => hashableAll items
  | .geometry kind coordinates srid =>
    hashableCanon kind && hashableCanon coordinates && hashableCanon srid
  | _ => true

def hashableAll : List Datum → Bool
  | [] => true
  | d :: rest => hashableCanon d && hashableAll rest

end

def hashable (d : Datum) : Bool := hashableCanon d.canon

end Datum

end SensorSeries
