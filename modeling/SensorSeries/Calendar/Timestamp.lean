import SensorSeries.Calendar.Date
import SensorSeries.Number.Binary64

/-!
# Timestamps

A timestamp is what a clock shows, to the nanosecond, with or without the clock's distance from
universal time. Two timestamps can be ordered when both have the distance or both lack it; then
`position` orders them. How finely a clock counts makes no difference to what it shows, but a clock
that counts nanoseconds shows only the times that `fitsNanoseconds`.
-/

namespace SensorSeries

/-- How it was told in which zone a clock stands. -/
inductive Zone where
  /-- By its distance from universal time. -/
  | distance
  /-- By its distance from universal time, in an informal text. -/
  | informal
  /-- By the name of a place; its distance from universal time may change with the seasons. -/
  | place (name : String)
  deriving DecidableEq, Repr

structure Timestamp where
  /-- Nanoseconds of the shown date and time after midnight of the first of January 1970. -/
  shown : Int
  /-- Microseconds by which the clock is ahead of universal time; a naive clock does not say. -/
  offset : Option Int
  /-- Whether the clock counts nanoseconds. -/
  fine : Bool := false
  /-- The zone of a clock that is not naive. -/
  zone : Zone := .distance
  /-- Nanoseconds by which universal time is counted too late. -/
  slip : Int := 0
  deriving DecidableEq, Repr

namespace Timestamp

def nanosPerSecond : Int := 1000000000

def nanosPerDay : Int := 86400 * nanosPerSecond

def nanosPerMicro : Int := 1000

def isAware (t : Timestamp) : Bool := t.offset.isSome

def comparable (a b : Timestamp) : Bool := a.isAware == b.isAware

/-- Nanoseconds of universal time, or of the shown time of a naive clock. -/
def position (t : Timestamp) : Int := t.shown - t.offset.getD 0 * nanosPerMicro + t.slip

/-- Counts universal time anew. A distance that is not a number of whole seconds is counted in
seconds by a double, which may lose a microsecond. -/
def recounted (t : Timestamp) : Timestamp :=
  let offset := t.offset.getD 0
  if offset % 1000000 = 0 then t
  else
    let n : Int := Binary64.throughMillionths offset.natAbs
    { t with slip := (offset - if offset < 0 then -n else n) * nanosPerMicro }

/-- The same instant, by two clocks that can be compared. -/
def same (a b : Timestamp) : Bool := a.comparable b && a.position == b.position

/-- Whether `a` comes before `b`; `none` if their clocks cannot be compared. -/
def before? (a b : Timestamp) : Option Bool :=
  if a.comparable b then some (decide (a.position < b.position)) else none

/-- A clock that is not naive, as far as an index tells it from others. -/
inductive Clock where
  | distance (micros : Int)
  | informal (micros : Int)
  | place (name : String)
  deriving DecidableEq, Repr

/-- The clock that shows the timestamp, `none` for a naive one. -/
def clock (t : Timestamp) : Option Clock :=
  t.offset.map fun micros => match t.zone with
    | .distance => .distance micros
    | .informal => .informal micros
    | .place name => .place name

theorem same_refl (t : Timestamp) : t.same t = true := by simp [same, comparable]

theorem same_trans {a b c : Timestamp} (h : a.same b = true) (k : b.same c = true) :
    a.same c = true := by
  simp only [same, comparable, Bool.and_eq_true, beq_iff_eq] at h k ⊢
  exact ⟨h.1.trans k.1, h.2.trans k.2⟩

/-! ## Counts of nanoseconds -/

/-- Nanoseconds are counted in 64 bits, one of them for the sign. -/
def nanosecondBound : Int := Nat.pow 2 63

/-- Whether a number is a count of nanoseconds. The least number of 64 bits counts nothing. -/
def isNanosecondCount (n : Int) : Bool := -nanosecondBound < n && n < nanosecondBound

/-- Whether a clock that counts nanoseconds can show the timestamp, and universal time with it. -/
def fitsNanoseconds (t : Timestamp) : Bool :=
  isNanosecondCount t.shown && isNanosecondCount t.position

/-! ## Parts -/

def date (t : Timestamp) : Date := .ofDay (t.shown / nanosPerDay)

/-- Nanoseconds since the shown midnight. -/
def timeOfDay (t : Timestamp) : Nat := (t.shown % nanosPerDay).toNat

def nanos (t : Timestamp) : Nat := t.timeOfDay % 1000000000

def second (t : Timestamp) : Nat := t.timeOfDay / 1000000000 % 60

def minute (t : Timestamp) : Nat := t.timeOfDay / 60000000000 % 60

def hour (t : Timestamp) : Nat := t.timeOfDay / 3600000000000

def ofParts (d : Date) (hour minute second nanos : Nat) (offset : Option Int) (fine : Bool) :
    Timestamp :=
  { shown := d.toDay * nanosPerDay +
      ((hour * 3600 + minute * 60 + second : Nat) : Int) * nanosPerSecond + nanos
    offset, fine }

/-! ## Text -/

/-- `n` in decimal, padded with zeros to `width` digits. -/
def padded (width n : Nat) : String :=
  let ds := Nat.toDigits 10 n
  String.ofList (List.replicate (width - ds.length) '0' ++ ds)

/-- Month and day. -/
def monthText (t : Timestamp) : String :=
  let d := t.date
  padded 2 d.month ++ "-" ++ padded 2 d.day

def dateText (t : Timestamp) : String := padded 4 t.date.year.toNat ++ "-" ++ t.monthText

def clockText (t : Timestamp) : String :=
  padded 2 t.hour ++ ":" ++ padded 2 t.minute ++ ":" ++ padded 2 t.second

/-- A fraction of `places` digits, cut off after them. -/
def fractionText (t : Timestamp) (places : Nat) : String :=
  if places = 0 then "" else "." ++ padded places (t.nanos / Nat.pow 10 (9 - places))

/-- No fraction, microseconds, or nanoseconds: the fewest places of these that lose nothing. -/
def places (t : Timestamp) : Nat :=
  if t.nanos = 0 then 0 else if t.nanos % 1000 = 0 then 6 else 9

/-- Hours and minutes ahead of universal time, seconds if there are any, and the microseconds if
there are any of these. -/
def offsetText (t : Timestamp) : String :=
  match t.offset with
  | none => ""
  | some o =>
    let micros := o.natAbs % 1000000
    let n := o.natAbs / 1000000
    let fraction := if micros = 0 then "" else "." ++ padded 6 micros
    let seconds := if n % 60 = 0 && micros = 0 then "" else ":" ++ padded 2 (n % 60) ++ fraction
    (if o < 0 then "-" else "+") ++ padded 2 (n / 3600) ++ ":" ++ padded 2 (n / 60 % 60) ++ seconds

def textWith (separator : String) (t : Timestamp) : String :=
  t.dateText ++ separator ++ t.clockText ++ t.fractionText t.places ++ t.offsetText

/-- The form of ISO 8601. -/
def iso (t : Timestamp) : String := t.textWith "T"

/-- The form with a space between date and time. -/
def text (t : Timestamp) : String := t.textWith " "

end Timestamp

end SensorSeries
