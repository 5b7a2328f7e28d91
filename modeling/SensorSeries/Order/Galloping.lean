import SensorSeries.Order.Halving

/-!
# Galloping

`gallopSpan` splits a list where a test stops to hold, as `span` does. It looks at the first item,
then leaps over ever more items, twice as many and one more each time, and searches what it leapt
over last. Few items in front are found with few tests, wherever the list ends. The search itself
is a parameter: `halvingSpan`, or `halvingSpanBack` for a list that stands the other way round.
-/

namespace SensorSeries

variable {α : Type}

/-- A way to split a list into the items for which a test holds and those behind them. -/
abbrev SpanSearch (α : Type) :=
  (α → Except Failure Bool) → List α → Except Failure (List α × List α)

/-- `halvingSpan` on the reversed list. Of two middle items it looks at the other one. -/
def halvingSpanBack : SpanSearch α := fun test items => do
  let (front, rest) ← halvingSpan (fun x => do return !(← test x)) items.reverse
  return (rest.reverse, front.reverse)

/-- Leaps over `leap` items, and on if the test holds for the item behind them. -/
def gallopOn (search : SpanSearch α) (test : α → Except Failure Bool) (leap : Nat)
    (items : List α) : Except Failure (List α × List α) :=
  match _split : items.drop leap with
  | [] => search test items
  | x :: behind => do
    if ← test x then
      let (front, rest) ← gallopOn search test (2 * leap + 1) behind
      return (items.take leap ++ x :: front, rest)
    else
      let (front, rest) ← search test (items.take leap)
      return (front, rest ++ x :: behind)
termination_by items.length
decreasing_by
  have := congrArg List.length _split
  simp only [List.length_drop, List.length_cons] at this
  omega

def gallopSpan (search : SpanSearch α) : SpanSearch α := fun test items =>
  match items with
  | [] => .ok ([], [])
  | x :: behind => do
    if ← test x then
      let (front, rest) ← gallopOn search test 0 behind
      return (x :: front, rest)
    else return ([], items)

end SensorSeries
