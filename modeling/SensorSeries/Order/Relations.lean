import SensorSeries.Failure

/-!
# Relations between two things

What a comparison of two things answers, question by question. Each question may fail on its own:
two things that are told apart need not have an order.
-/

namespace SensorSeries

structure Relations where
  same : Except Failure Bool
  before : Except Failure Bool
  notAfter : Except Failure Bool
  after : Except Failure Bool
  notBefore : Except Failure Bool
  /-- How many members the set of the two has. -/
  distinct : Except Failure Nat

namespace Relations

/-- The relations that follow from equality and one order. -/
def ofBefore (same before : Except Failure Bool) (distinct : Except Failure Nat) : Relations where
  same
  before
  notAfter := do
    if ← before then return true
    same
  after := do
    if ← before then return false
    return !(← same)
  notBefore := do return !(← before)
  distinct

/-- The relations of two data. A NaN is on neither side of any number. -/
def ofData (a b : Datum) : Relations :=
  let upTo (x y : Datum) : Except Failure Bool := do
    if ← ordered (x.before? y) then return true
    return x == y
  { same := .ok (a == b)
    before := ordered (a.before? b)
    notAfter := upTo a b
    after := ordered (b.before? a)
    notBefore := upTo b a
    distinct := sizeOfPair (.ok a.hashable) (.ok b.hashable) (a == b) }

/-- The relations of things of different sorts: they differ, and have no order. -/
def unrelated (hashableA hashableB : Except Failure Bool) : Relations where
  same := .ok false
  before := .error .unorderable
  notAfter := .error .unorderable
  after := .error .unorderable
  notBefore := .error .unorderable
  distinct := sizeOfPair hashableA hashableB false

end Relations

end SensorSeries
