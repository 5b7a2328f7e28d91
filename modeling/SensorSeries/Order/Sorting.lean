import SensorSeries.Order.Merging

/-!
# Sorting

Stable sorting by a comparison that may fail. The list is cut into runs: each is a stretch that is
sorted already, or falling and then turned round, and a short one is filled up by putting the next
items into it one by one. Neighbouring runs are merged, those first that lie deepest in the halving
of the whole list. What is asked of the comparison, and in which order, is part of the definition: a
comparison that fails, or that is no order, shows it.
-/

namespace SensorSeries

variable {α : Type}

/-! ## Runs -/

/-- The longest beginning in which each item comes before the last one, or in which none does; the
second part is what follows. -/
def takeRun (before : α → α → Except Failure Bool) (falling : Bool) (last : α) :
    List α → Except Failure (List α × List α)
  | [] => .ok ([], [])
  | x :: rest => do
    if (← before x last) == falling then
      let (run, others) ← takeRun before falling x rest
      return (x :: run, others)
    else return ([], x :: rest)

/-- Puts an item into a sorted list, after the items that it does not come before. -/
def insertSorted (before : α → α → Except Failure Bool) (items : List α) (x : α) :
    Except Failure (List α) := do
  let (front, rest) ← halvingSpan (fun y => do return !(← before x y)) items
  return front ++ x :: rest

/-- The run that a list begins with, filled up to `least` items if there are so many, and what
follows it. -/
def nextRun (before : α → α → Except Failure Bool) (least : Nat) :
    List α → Except Failure (List α × List α)
  | [] => .ok ([], [])
  | [x] => .ok ([x], [])
  | x :: y :: rest => do
    let falling ← before y x
    let (run, others) ← takeRun before falling y rest
    let start := x :: y :: run
    let missing := least - start.length
    let run ← (others.take missing).foldlM (insertSorted before)
      (if falling then start.reverse else start)
    return (run, others.drop missing)

/-- Lists shorter than this are one run. -/
def runBound : Nat := 64

/-- The least length of a run: the first digits of the length of the list in base two, rounded up if
a later digit is not zero. -/
def leastRun (n : Nat) (more : Bool) : Nat :=
  if n < runBound then if more then n + 1 else n
  else leastRun (n / 2) (more || n % 2 = 1)
termination_by n
decreasing_by
  simp only [runBound] at *
  omega

/-! ## Merging in order of depth -/

/-- A run that waits to be merged, and how deep its border to the next run lies. -/
structure WaitingRun (α : Type) where
  items : List α
  depth : Nat := 0

/-- How often a list must be halved until the places `a` and `b` lie in different parts. The places
and the length `n` are counted in halves of an item; `fuel` bounds the number. -/
def depthBetween (n : Nat) : Nat → Nat → Nat → Nat
  | 0, _, _ => 1
  | fuel + 1, a, b => if a / n ≠ b / n then 1 else 1 + depthBetween n fuel (2 * a) (2 * b)

/-- Merges the last runs that wait, the last one first, as long as their borders lie deeper than a
new one. -/
def mergeDeeper (before : α → α → Except Failure Bool) (depth patience : Nat) (last : List α) :
    List (WaitingRun α) → Except Failure (List α × List (WaitingRun α) × Nat)
  | [] => .ok (last, [], patience)
  | run :: waiting => do
    if depth < run.depth then
      let (merged, patience) ← mergeRuns before patience run.items last
      mergeDeeper before depth patience merged waiting
    else return (last, run :: waiting, patience)

/-- Merges all runs that wait, the last one first. A run between a shorter one and a longer one goes
to the shorter one. -/
def mergeWaiting (before : α → α → Except Failure Bool) :
    Nat → Nat → List (List α) → Except Failure (List α)
  | _, _, [] => .ok []
  | _, _, [run] => .ok run
  | 0, _, runs => .ok runs.reverse.flatten
  | fuel + 1, patience, c :: b :: rest => do
    match rest with
    | a :: others =>
      if a.length < c.length then
        let (merged, patience) ← mergeRuns before patience a b
        mergeWaiting before fuel patience (c :: merged :: others)
      else
        let (merged, patience) ← mergeRuns before patience b c
        mergeWaiting before fuel patience (merged :: rest)
    | [] => return (← mergeRuns before patience b c).1

/-- Cuts off run after run and merges those that wait; `size` is the length of the whole list. -/
def sortRuns (before : α → α → Except Failure Bool) (size : Nat) :
    Nat → Nat → List (WaitingRun α) → List α → Except Failure (List α)
  | fuel + 1, patience, waiting, x :: items => do
    let (run, items) ← nextRun before (leastRun size false) (x :: items)
    match waiting with
    | [] => sortRuns before size fuel patience [{ items := run }] items
    | last :: waiting =>
      let start := waiting.foldr (fun run length => run.items.length + length) 0
      let a := 2 * start + last.items.length
      let depth := depthBetween size size a (a + last.items.length + run.length)
      let (merged, waiting, patience) ← mergeDeeper before depth patience last.items waiting
      sortRuns before size fuel patience ({ items := run } :: { items := merged, depth } :: waiting)
        items
  | _, patience, waiting, _ =>
    mergeWaiting before waiting.length patience (waiting.map (·.items))

def sorted (before : α → α → Except Failure Bool) (items : List α) : Except Failure (List α) :=
  sortRuns before items.length items.length Merging.worthwhile [] items

end SensorSeries
