/-!
# Ranges of characters

A class of characters is given by an ordered table of ranges, both ends included.
-/

namespace SensorSeries.Text

/-- Whether one of the ranges `first ≤ k ≤ last` between the indices `lo` and `hi` of an ordered
table holds `k`; `fuel` bounds the halvings. -/
def inRangesFrom (ranges : Array (Nat × Nat)) (k : Nat) : Nat → Nat → Nat → Bool
  | 0, _, _ => false
  | fuel + 1, lo, hi =>
    if lo < hi then
      let mid := (lo + hi) / 2
      match ranges[mid]? with
      | none => false
      | some (first, last) =>
        if k < first then inRangesFrom ranges k fuel lo mid
        else if last < k then inRangesFrom ranges k fuel (mid + 1) hi
        else true
    else false

/-- Whether a character is in one of the ranges of an ordered table. -/
def inRanges (ranges : Array (Nat × Nat)) (c : Char) : Bool :=
  inRangesFrom ranges c.toNat ranges.size 0 ranges.size

end SensorSeries.Text
