import SensorSeries.Datum.Literal

/-!
# Units of measurement

A unit goes by its symbol, which is a text as a rule. What a source tells in place of a symbol is
kept as it is, whatever it is; nothing at all is a missing unit.
-/

namespace SensorSeries

structure UnitOfMeasure where
  symbol : Datum
  deriving Repr

namespace UnitOfMeasure

/-- No unit. -/
def missing : UnitOfMeasure := ⟨.null⟩

def ofText (symbol : String) : UnitOfMeasure := ⟨.text symbol⟩

instance : BEq UnitOfMeasure := ⟨fun a b => a.symbol == b.symbol⟩

def isMissing (u : UnitOfMeasure) : Bool := u.symbol matches .null

/-- Whether the symbol says anything: a missing unit does not, and neither does an empty text. -/
def isFilled (u : UnitOfMeasure) : Bool := u.symbol.truthy

/-- A missing unit comes before every other. -/
def key (u : UnitOfMeasure) : Datum :=
  if u.isMissing then .tuple [.int 0] else .tuple [.int 1, u.symbol]

def literal (u : UnitOfMeasure) : String := u.symbol.literal

end UnitOfMeasure

end SensorSeries
