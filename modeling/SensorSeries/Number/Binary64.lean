/-!
# Numbers in binary64, held exactly

A finite double is an integer multiple of `2⁻¹⁰⁷⁴`, the smallest positive double. `Binary64` holds
that multiple, so comparing two doubles, or a double with an integer of any size, is comparing two
integers: `Position` is the number line on which both lie. `ofRatio` rounds a quotient of natural
numbers to the nearest double, a tie to the even significand, and reports overflow.
-/

namespace SensorSeries

/-- A point of the number line; finite points count units of `2⁻¹⁰⁷⁴`. -/
inductive Position where
  | below
  | finite (units : Int)
  | above
  deriving DecidableEq, Repr

namespace Position

/-- A unit is `2` to the power of minus this. -/
def fineness : Nat := 1074

/-- How many units make one. -/
def one : Nat := Nat.pow 2 fineness

theorem pow_two_pos (n : Nat) : 0 < Nat.pow 2 n := Nat.two_pow_pos n

theorem one_pos : 0 < one := by
  unfold one
  exact pow_two_pos fineness

def ofInt (n : Int) : Position := .finite (n * one)

def lt : Position → Position → Bool
  | .below, .below => false
  | .below, _ => true
  | .finite _, .below => false
  | .finite a, .finite b => decide (a < b)
  | .finite _, .above => true
  | .above, _ => false

theorem ofInt_inj {m n : Int} : ofInt m = ofInt n ↔ m = n := by
  have hone : (one : Int) ≠ 0 := by have := one_pos; omega
  simp only [ofInt, Position.finite.injEq]
  exact ⟨Int.eq_of_mul_eq_mul_right hone, fun h => h ▸ rfl⟩

end Position

/-- A double: not a number, infinite, or a whole number of units with a sign. The two zeros differ
by their sign alone. -/
inductive Binary64 where
  | nan
  | infinite (negative : Bool)
  | finite (negative : Bool) (units : Nat)
  deriving DecidableEq, Repr

namespace Binary64

def isNaN : Binary64 → Bool
  | .nan => true
  | _ => false

/-- Where the number lies on the line; a NaN lies nowhere. -/
def position? : Binary64 → Option Position
  | .nan => none
  | .infinite negative => some (if negative then .below else .above)
  | .finite negative units => some (.finite (if negative then -units else units))

@[simp] theorem position?_eq_none_iff {x : Binary64} : x.position? = none ↔ x = .nan := by
  cases x <;> simp [position?]

/-- `num / den` to the nearest natural number, a half to the even one. -/
def roundDiv (num den : Nat) : Nat :=
  let q := num / den
  let r := num % den
  if 2 * r < den then q else if den < 2 * r then q + 1 else q + q % 2

/-- The first magnitude, in units, that no finite double has. -/
def limit : Nat := Nat.pow 2 1024 * Position.one

/-- The magnitude in units of the double nearest to `num / den`; `none` when it overflows. Below
`2⁵³` units every integer is a double, above only the multiples of a power of two. -/
def nearestUnits (num den : Nat) : Option Nat :=
  let scaled := num * Position.one
  let shift := (scaled / den).log2 - 52
  let gap := Nat.pow 2 shift
  let units := roundDiv scaled (den * gap) * gap
  if units < limit then some units else none

/-- The double nearest to `±num / den`, infinite when that overflows. -/
def ofRatio (negative : Bool) (num den : Nat) : Binary64 :=
  match nearestUnits num den with
  | some units => .finite negative units
  | none => .infinite negative

/-- The double nearest to an integer; an integer too large for one has none. -/
def ofInt? (n : Int) : Option Binary64 :=
  (nearestUnits n.natAbs 1).map (.finite (n < 0))

/-- A number of millionths after dividing it by a million and multiplying it again, in doubles, and
cutting off what is less than one. -/
def throughMillionths (n : Nat) : Nat :=
  match nearestUnits n 1000000 with
  | none => n
  | some units =>
    match nearestUnits (units * 1000000) Position.one with
    | none => n
    | some product => product / Position.one

def zero : Binary64 := .finite false 0

/-- False for both zeros only. -/
def truthy : Binary64 → Bool
  | .finite _ 0 => false
  | _ => true

end Binary64

end SensorSeries
