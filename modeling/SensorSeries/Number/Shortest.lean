import SensorSeries.Number.Binary64
import SensorSeries.Text.Digit

/-!
# Shortest decimals

The text of a double is the shortest decimal that reads back as the same double. `Decimal.shortest`
looks on ever finer decimal grids for a point inside the interval of numbers that round to the
double; the first grid with such a point wins, and of two points the nearer. `Binary64.text` lays
the digits out.
-/

namespace SensorSeries

/-- A decimal `digits · 10 ^ exponent`. -/
structure Decimal where
  digits : Nat
  exponent : Int
  deriving DecidableEq, Repr

namespace Decimal

/-- The place of the leading digit: `10 ^ (leading units - 1) ≤ units / one < 10 ^ leading units`.
The multiplication makes the quotient of every positive double at least one. -/
def leading (units : Nat) : Int :=
  (Nat.toDigits 10 (units * Nat.pow 10 324 / Position.one)).length - 324

/-- The interval of numbers that round to the double of `units`, in quarters of a unit. -/
structure Interval where
  low : Nat
  high : Nat
  closed : Bool

/-- Half the gap to the next double on each side; below a power of two the gap is half as wide. The
ends round to the double itself if its significand is even. -/
def roundingInterval (units : Nat) : Interval :=
  let shift := units.log2 - 52
  let gap := Nat.pow 2 shift
  let significand := units / gap
  let below := if significand = Nat.pow 2 52 && 0 < shift then gap else 2 * gap
  { low := 4 * units - below, high := 4 * units + 2 * gap, closed := significand % 2 = 0 }

def Interval.contains (i : Interval) (quarters scale : Nat) : Bool :=
  if i.closed then i.low * scale ≤ quarters && quarters ≤ i.high * scale
  else i.low * scale < quarters && quarters < i.high * scale

/-- The best point of the grid `10 ^ exponent` inside the interval of `units`, if there is one. The
two neighbours of the value are tried; of two hits the nearer wins, a tie goes to the even one. -/
def onGrid? (units : Nat) (exponent : Int) : Option Nat :=
  let scale := Nat.pow 10 (-exponent).toNat
  let step := Nat.pow 10 exponent.toNat * Position.one
  let lower := units * scale / step
  let remainder := units * scale % step
  let interval := roundingInterval units
  let fits c := interval.contains (4 * c * step) scale
  match fits lower && lower != 0, fits (lower + 1) with
  | true, true =>
    if 2 * remainder < step || (2 * remainder == step && lower % 2 == 0) then some lower
    else some (lower + 1)
  | true, false => some lower
  | false, true => some (lower + 1)
  | false, false => none

/-- Removes trailing zeros of the digits; `fuel` bounds their number. -/
def trim : Nat → Decimal → Decimal
  | 0, d => d
  | fuel + 1, d =>
    if d.digits ≠ 0 && d.digits % 10 = 0 then trim fuel ⟨d.digits / 10, d.exponent + 1⟩ else d

/-- The shortest decimal that reads back as the double of `units`; seventeen digits always do. -/
def shortest (units : Nat) : Decimal :=
  let top := leading units
  let candidate? := (List.range 17).findSome? fun k =>
    let exponent := top - (k + 1 : Nat)
    (onGrid? units exponent).map fun digits => trim 17 ⟨digits, exponent⟩
  candidate?.getD ⟨0, 0⟩

end Decimal

/-- How a double is laid out as text. -/
structure DecimalStyle where
  /-- The least exponent of the leading digit that is written without an exponent. -/
  positionalFrom : Int
  /-- The first exponent of the leading digit that is written with an exponent. -/
  positionalTo : Int
  nan : String
  infinity : String

/-- Small and large numbers take an exponent of at least two digits; every other number has a
point. -/
def DecimalStyle.plain : DecimalStyle :=
  { positionalFrom := -4, positionalTo := 16, nan := "nan", infinity := "inf" }

namespace Decimal

def zeros (n : Int) : String := String.ofList (List.replicate n.toNat '0')

/-- Digits and a point, as many zeros as the exponent asks for. -/
def positional (d : Decimal) : String :=
  let ds := Nat.toDigits 10 d.digits
  let point := ds.length + d.exponent
  if point ≤ 0 then "0." ++ zeros (-point) ++ String.ofList ds
  else if ds.length ≤ point then String.ofList ds ++ zeros d.exponent ++ ".0"
  else String.ofList (ds.take point.toNat) ++ "." ++ String.ofList (ds.drop point.toNat)

/-- One digit, a point and the others if there are any, a signed exponent. -/
def scientific (d : Decimal) : String :=
  let ds := Nat.toDigits 10 d.digits
  let exponent := ds.length + d.exponent - 1
  let fraction := if ds.length ≤ 1 then "" else "." ++ String.ofList (ds.drop 1)
  let sign := if exponent < 0 then "-" else "+"
  let size := toString exponent.natAbs
  let padding := if size.length < 2 then "0" else ""
  String.ofList (ds.take 1) ++ fraction ++ "e" ++ sign ++ padding ++ size

def layout (style : DecimalStyle) (d : Decimal) : String :=
  let lead := (Nat.toDigits 10 d.digits).length + d.exponent - 1
  if style.positionalFrom ≤ lead && lead < style.positionalTo then d.positional else d.scientific

end Decimal

namespace Binary64

def textIn (style : DecimalStyle) : Binary64 → String
  | .nan => style.nan
  | .infinite negative => (if negative then "-" else "") ++ style.infinity
  | .finite negative 0 => if negative then "-0.0" else "0.0"
  | .finite negative units =>
    (if negative then "-" else "") ++ (Decimal.shortest units).layout style

/-- The shortest text that reads back as the number. -/
def text (x : Binary64) : String := x.textIn .plain

end Binary64

end SensorSeries
