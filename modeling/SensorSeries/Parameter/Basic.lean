import SensorSeries.Parameter.Reference
import SensorSeries.Value.Key
import SensorSeries.Vocabulary

/-!
# Parameters

A named value carries a typed attribute of an observation. Named values are ordered by name, then
by value; a missing name comes first. A parameter is a named value, or a datum that is none: it is
kept, but has no name to look it up by.
-/

namespace SensorSeries

structure NamedValue where
  name : Option Reference
  value : Option Value
  deriving Repr

namespace NamedValue

def isSetName (n : NamedValue) : Bool := n.name.any (·.isSetHref)

def isSetValue (n : NamedValue) : Bool := n.value.isSome

/-- Whether the value goes by this address; nothing goes by an empty one. -/
def hasName (n : NamedValue) (href : String) : Bool :=
  n.isSetName && (n.name.bind (·.href)) == some href

/-- A missing name comes before every other. -/
def nameKey (n : NamedValue) : Datum :=
  match n.name with
  | none => .tuple [.int 0]
  | some r => .tuple (.int 1 :: r.keyParts)

/-- Name first, then value. A value that has no key leaves the named value without one. -/
def key (n : NamedValue) : Except Failure Datum := do
  return .tuple [n.nameKey, ← Value.optionKey n.value]

def literal (n : NamedValue) : String :=
  "NamedValue(" ++ ((n.name.map (·.literal)).getD "None") ++ ", " ++
    Value.optionLiteral n.value ++ ")"

def isSamplingGeometry (n : NamedValue) : Bool :=
  n.hasName Vocabulary.samplingGeometry && n.value.any (·.isGeometry)

def isHeight (n : NamedValue) : Bool :=
  n.hasName Vocabulary.height && n.value.any (·.isQuantity)

def isDepth (n : NamedValue) : Bool :=
  n.hasName Vocabulary.depth && n.value.any (·.isQuantity)

end NamedValue

inductive Parameter where
  | named (n : NamedValue)
  | other (d : Datum)
  deriving Repr

namespace Parameter

def literal : Parameter → String
  | .named n => n.literal
  | .other d => d.literal

/-- A parameter as a named value; a datum that is none cannot be asked for its name. -/
def asNamed : Parameter → Except Failure NamedValue
  | .named n => .ok n
  | .other _ => .error .noAttribute

def same : Parameter → Parameter → Except Failure Bool
  | .named a, .named b => do
    let k ← a.key
    let l ← b.key
    return k == l
  | .other a, .other b => .ok (a == b)
  | _, _ => .ok false

/-- Whether two parameters are one in every respect. -/
def identical : Parameter → Parameter → Bool
  | .named a, .named b => a.name == b.name && sameOption Value.identical a.value b.value
  | .other a, .other b => a.identical b
  | _, _ => false

/-- Equality, except that a parameter is not compared with one that is it in every respect. -/
def sameOrIdentical (p q : Parameter) : Except Failure Bool :=
  if p.identical q then .ok true else p.same q

def before : Parameter → Parameter → Except Failure Bool
  | .named a, .named b => do
    let k ← a.key
    let l ← b.key
    ordered (k.before? l)
  | .other a, .other b => ordered (a.before? b)
  | _, _ => .error .unorderable

/-- Whether the parameter can be a member of a set. -/
def hashable : Parameter → Except Failure Bool
  | .named n => do return (← n.key).hashable
  | .other d => .ok d.hashable

/-- How many different parameters a list has, if all of them can be members of a set. -/
def countDistinct (ps : List Parameter) : Except Failure Nat := do
  let kept ← ps.foldlM (fun (kept : List Parameter) p => do
    if !(← p.hashable) then throw .unhashable
    if ← kept.anyM fun q => q.same p then return kept
    return kept ++ [p]) []
  return kept.length

def relations : Parameter → Parameter → Relations
  | .named a, .named b =>
    let p := Parameter.named a
    let q := Parameter.named b
    .ofBefore (p.same q) (p.before q) (do
      let equal := (p.same q).toOption.getD false
      sizeOfPair p.hashable q.hashable equal)
  | .other a, .other b => .ofData a b
  | p, q => .unrelated p.hashable q.hashable

end Parameter

end SensorSeries
