import SensorSeries.Order.Galloping

/-!
# Merging runs

Two sorted runs are merged from one end on, item by item. When one run has won often enough in a
row, whole stretches are taken at once, which are found by galloping, until the stretches get short
again. How often is often enough is learnt: `patience` sinks while galloping pays, and rises each
time it stops to pay; it is passed on from one merge to the next.

A merge is described from the end at which it starts: `other` is the run that gives the first item
there, `kept` the run that reaches beyond the other one in the end. When a single item of `kept` is
left, it comes behind all of `other`; the two are not compared any more.
-/

namespace SensorSeries

variable {α : Type}

/-- From which end, and by what comparison, two runs are merged. -/
structure MergePlan (α : Type) where
  /-- Whether an item of `other` (the second) goes before one of `kept` (the first). -/
  otherWins : α → α → Except Failure Bool
  search : SpanSearch α
  /-- Whether a stretch of `kept` is looked for before one of `other`. -/
  keptFirst : Bool

/-- How a merge goes on: item by item, with the wins in a row so far, or by stretches. -/
inductive Pace where
  | single (keptWins otherWins : Nat)
  | stretches

namespace Merging

/-- A stretch this long pays. -/
def worthwhile : Nat := 7

/-- The rest of a merge that is decided. -/
def decided? (kept other : List α) : Option (List α) :=
  match kept, other with
  | [], other => some other
  | [x], other => some (other ++ [x])
  | kept, [] => some kept
  | _, _ => none

/-- A stretch that was taken, how long it was, and what is left of the runs. -/
structure Stretch (α : Type) where
  taken : List α
  length : Nat
  kept : List α
  other : List α

/-- Takes the items of `kept` before the next one of `other`, then that one, unless the merge is
decided before. -/
def stretchOfKept (p : MergePlan α) (kept other : List α) : Except Failure (Stretch α) :=
  match other with
  | [] => .ok ⟨[], 0, kept, other⟩
  | y :: others => do
    let (front, rest) ← gallopSpan p.search (fun x => do return !(← p.otherWins x y)) kept
    if (decided? rest other).isSome then return ⟨front, front.length, rest, other⟩
    return ⟨front ++ [y], front.length, rest, others⟩

/-- Takes the items of `other` before the next one of `kept`, then that one, unless the merge is
decided before. -/
def stretchOfOther (p : MergePlan α) (kept other : List α) : Except Failure (Stretch α) :=
  match kept with
  | [] => .ok ⟨[], 0, kept, other⟩
  | x :: rest => do
    let (front, others) ← gallopSpan p.search (fun y => p.otherWins x y) other
    if (decided? kept others).isSome then return ⟨front, front.length, kept, others⟩
    return ⟨front ++ [x], front.length, rest, others⟩

/-- Goes on with a merge that is not decided; `fuel` bounds the number of comparisons. Gives the
rest of the merged items, and the patience in the end. -/
def proceed (p : MergePlan α) :
    Nat → Pace → Nat → List α → List α → Except Failure (List α × Nat)
  | 0, _, patience, kept, other => .ok (kept ++ other, patience)
  | fuel + 1, .single keptWins otherWins, patience, x :: kept, y :: other => do
    if ← p.otherWins x y then
      match decided? (x :: kept) other with
      | some rest => return (y :: rest, patience)
      | none =>
        let pace := if patience ≤ otherWins + 1 then .stretches else .single 0 (otherWins + 1)
        let (rest, patience) ← proceed p fuel pace patience (x :: kept) other
        return (y :: rest, patience)
    else
      match decided? kept (y :: other) with
      | some rest => return (x :: rest, patience)
      | none =>
        let pace := if patience ≤ keptWins + 1 then .stretches else .single (keptWins + 1) 0
        let (rest, patience) ← proceed p fuel pace patience kept (y :: other)
        return (x :: rest, patience)
  | fuel + 1, .stretches, patience, kept, other => do
    let a ← if p.keptFirst then stretchOfKept p kept other else stretchOfOther p kept other
    match decided? a.kept a.other with
    | some rest => return (a.taken ++ rest, patience)
    | none =>
      let b ← if p.keptFirst then stretchOfOther p a.kept a.other
        else stretchOfKept p a.kept a.other
      match decided? b.kept b.other with
      | some rest => return (a.taken ++ b.taken ++ rest, patience)
      | none =>
        let (rest, patience) ←
          if worthwhile ≤ a.length || worthwhile ≤ b.length then
            proceed p fuel .stretches (if 1 < patience then patience - 1 else patience) b.kept
              b.other
          else proceed p fuel (.single 0 0) (patience + 1) b.kept b.other
        return (a.taken ++ b.taken ++ rest, patience)
  | _ + 1, .single _ _, patience, kept, other => .ok (kept ++ other, patience)

/-- Merges two runs of which `other` gives the first item. -/
def start (p : MergePlan α) (patience : Nat) (kept other : List α) :
    Except Failure (List α × Nat) :=
  match other with
  | [] => .ok (kept, patience)
  | y :: other =>
    match decided? kept other with
    | some rest => .ok (y :: rest, patience)
    | none => do
      let (rest, patience) ←
        proceed p (kept.length + other.length) (.single 0 0) patience kept other
      return (y :: rest, patience)

/-- Merging from the front. An item of the second run comes before one of the first only if the
comparison says so. -/
def fromFront (before : α → α → Except Failure Bool) : MergePlan α where
  otherWins x y := before y x
  search := halvingSpan
  keptFirst := true

/-- Merging from the back, both runs reversed: now the items of the first run give way. -/
def fromBack (before : α → α → Except Failure Bool) : MergePlan α where
  otherWins x y := before x y
  search := halvingSpanBack
  keptFirst := false

end Merging

/-- Merges two runs that follow one another. The beginning of the first and the end of the second
that are in place already stay there; what is between is merged from the end of the shorter run. -/
def mergeRuns (before : α → α → Except Failure Bool) (patience : Nat) (first second : List α) :
    Except Failure (List α × Nat) :=
  match second with
  | [] => .ok (first, patience)
  | y :: _ => do
    let (settled, first) ← gallopSpan halvingSpan (fun x => do return !(← before y x)) first
    match first.getLast? with
    | none => return (settled ++ second, patience)
    | some x =>
      let (last, rest) ←
        gallopSpan halvingSpanBack (fun z => do return !(← before z x)) second.reverse
      if rest.isEmpty then return (settled ++ first ++ second, patience)
      let (merged, patience) ←
        if first.length ≤ rest.length then
          Merging.start (Merging.fromFront before) patience first rest.reverse
        else do
          let (back, patience) ← Merging.start (Merging.fromBack before) patience rest first.reverse
          pure (back.reverse, patience)
      return (settled ++ merged ++ last.reverse, patience)

end SensorSeries
