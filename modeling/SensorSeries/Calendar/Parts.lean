import SensorSeries.Calendar.Draft

/-!
# Timestamps read part by part

A text in no usual order is cut into numbers, words and marks, and each number is taken for what its
length and its neighbours suggest: for a part of the day, or for a time of day. Which of the numbers
of the day is the year, the month and the day is decided at the end (`Parts.day?`). A number is
known to be the year if it is greater than a hundred, or written with more than two digits beside a
mark. A year below a hundred that is not known to be one belongs to a nearby century.

The distance from universal time is told informally here: hours and minutes may be any numbers as
long as the whole is below a day. Nothing finer than a microsecond is kept.
-/

namespace SensorSeries.Timestamp

/-- A piece of a text. -/
inductive Token where
  /-- Digits, or digits with a point inside. -/
  | number (cs : List Char)
  | word (cs : List Char)
  | mark (c : Char)
  deriving DecidableEq, Repr

namespace Token

def isPoint (c : Char) : Bool := c = '.' || c = ','

def inRun (c : Char) : Bool := c.isDigit || c = '.'

/-- Numbers and points, one by one. -/
def splitPoints : List Char → List Token
  | [] => []
  | c :: cs =>
    if isPoint c then .mark c :: splitPoints cs
    else match splitPoints cs with
      | .number ds :: rest => .number (c :: ds) :: rest
      | rest => .number [c] :: rest

/-- A run of digits and points is one number if a single point stands inside, which may be a
comma. A comma and a point together make it no number at all. -/
def ofRun (run : List Char) : List Token :=
  if 1 < run.count '.' || run.getLast?.any isPoint then splitPoints run
  else if !run.contains ',' then [.number run]
  else if run.contains '.' then [.word run]
  else [.number (run.map fun c => if c = ',' then '.' else c)]

/-- Splits off the digits and points that go on after a digit. A comma may come first among the
points, and only after two digits. -/
def spanRun (first : Char) (cs : List Char) : List Char × List Char :=
  let ds := first :: cs.takeWhile Char.isDigit
  match cs.dropWhile Char.isDigit with
  | ',' :: rest =>
    if 2 ≤ ds.length then (ds ++ ',' :: rest.takeWhile inRun, rest.dropWhile inRun)
    else (ds, ',' :: rest)
  | rest => (ds ++ rest.takeWhile inRun, rest.dropWhile inRun)

theorem spanRun_length (first : Char) (cs : List Char) :
    (spanRun first cs).2.length ≤ cs.length := by
  have h : (cs.dropWhile Char.isDigit).length ≤ cs.length := (List.dropWhile_suffix _).length_le
  unfold spanRun
  split
  · rename_i rest e
    rw [e, List.length_cons] at h
    dsimp only
    split
    · exact Nat.le_trans (List.dropWhile_suffix _).length_le (Nat.le_of_succ_le h)
    · exact h
  · exact Nat.le_trans (List.dropWhile_suffix _).length_le h

/-- Cuts a text. -/
def ofText : List Char → List Token
  | [] => []
  | c :: cs =>
    if c.isDigit then ofRun (spanRun c cs).1 ++ ofText (spanRun c cs).2
    else if c.isAlpha then
      .word (c :: cs.takeWhile Char.isAlpha) :: ofText (cs.dropWhile Char.isAlpha)
    else .mark (if isBlank c then ' ' else c) :: ofText cs
termination_by cs => cs.length
decreasing_by
  all_goals simp only [List.length_cons]
  · exact Nat.lt_succ_of_le (spanRun_length c cs)
  · exact Nat.lt_succ_of_le (List.dropWhile_suffix _).length_le
  · exact Nat.lt_succ_self _

/-- Tokens that may stand between parts and say nothing: marks, and the letter before a time. -/
def isFiller : Token → Bool
  | .mark c => [' ', '.', ',', ';', '-', '/', '\''].contains c
  | .word cs => cs = ['T'] || cs = ['t']
  | .number _ => false

/-- The digits of a number without a point. -/
def digits? : Token → Option (List Char)
  | .number cs => if cs.all Char.isDigit then some cs else none
  | _ => none

/-- The digits of a number before the point and after it. -/
def decimal? : Token → Option (List Char × List Char)
  | .number cs => some (cs.takeWhile Char.isDigit, (cs.dropWhile Char.isDigit).drop 1)
  | _ => none

def isSign : Token → Bool
  | .mark c => c = '+' || c = '-'
  | _ => false

/-- Whether a word may name a zone, whatever zone that is. -/
def isZoneName : Token → Bool
  | .word cs => (cs.length ≤ 5 && cs.all Char.isUpper) || cs = ['z']
  | _ => false

/-- Names of universal time. -/
def isUniversal (t : Token) : Bool :=
  ["Z", "z", "UTC", "GMT"].any fun name => t = .word name.toList

end Token

/-- What has been read of a text. -/
structure Parts where
  /-- The numbers of the day, in the order of the text. -/
  numbers : List Nat := []
  /-- Which of them is known to be the year. -/
  yearAt : Option Nat := none
  hour : Option Nat := none
  minute : Option Nat := none
  second : Option Nat := none
  micros : Option Nat := none
  /-- Seconds ahead of universal time. -/
  offset : Option Int := none
  /-- Whether a zone is named, and whether that is universal time. -/
  zoneName : Option Bool := none

namespace Parts

/-- Takes a number for a part of the day. There is one year only. -/
def addNumber (p : Parts) (n : Nat) (isYear : Bool) : Option Parts :=
  let numbers := p.numbers ++ [n]
  if !isYear then some { p with numbers }
  else if p.yearAt.isSome then none
  else some { p with numbers, yearAt := some p.numbers.length }

/-- Takes digits beside a mark for a part of the day; more than two of them are a year. -/
def addDigits (p : Parts) (ds : List Char) : Option Parts :=
  p.addNumber (natOf ds) (2 < ds.length)

/-- Seconds and, after a point, the first six digits of their fraction. -/
def withSeconds? (p : Parts) (cs : List Char) : Option Parts :=
  let whole := cs.takeWhile Char.isDigit
  let fraction := (cs.dropWhile Char.isDigit).drop 1
  if whole.isEmpty then none
  else
    some { p with
      second := some (natOf whole)
      micros := some (natOf ((fraction ++ List.replicate 6 '0').take 6)) }

/-- Six digits with or without a fraction: a day if nothing has been read of one, else a time. -/
def addSix? (p : Parts) (cs : List Char) : Option Parts := do
  let first ← take? 2 cs
  let second ← take? 2 first.2
  if p.numbers.isEmpty && cs.length = 6 then
    let third ← take? 2 second.2
    return { p with numbers := [first.1, second.1, third.1] }
  ({ p with hour := some first.1, minute := some second.1 } : Parts).withSeconds? second.2

/-- Eight digits or more: a day, then hours, minutes and seconds. -/
def addCompact? (p : Parts) (ds : List Char) : Option Parts := do
  let p ← p.addDigits (ds.take 4)
  let p ← p.addDigits ((ds.drop 4).take 2)
  let p ← p.addDigits ((ds.drop 6).take 2)
  let p := if 8 < ds.length then
      { p with hour := some (natOf ((ds.drop 8).take 2))
               minute := some (natOf ((ds.drop 10).take 2)) }
    else p
  return if 12 < ds.length then { p with second := some (natOf (ds.drop 12)) } else p

/-- A time of day with colons, and the number of tokens after its hours. A fraction of a minute
gives seconds. -/
def addClock? (p : Parts) (hours : List Char) : List Token → Option (Parts × Nat)
  | minutes :: rest => do
    let (minutes, fraction) ← minutes.decimal?
    let part := natOf fraction
    let second := if part = 0 then none else some (60 * part / Nat.pow 10 fraction.length)
    let p := { p with hour := some (natOf hours), minute := some (natOf minutes), second }
    match rest with
    | .mark ':' :: .number seconds :: _ => return (← p.withSeconds? seconds, 4)
    | .mark ':' :: _ => none
    | _ => return (p, 2)
  | [] => none

/-- Up to three numbers with a mark between them, and the number of tokens after the first. -/
def addMarked? (p : Parts) (ds : List Char) (mark : Char) (rest : List Token) :
    Option (Parts × Nat) := do
  let p ← p.addDigits ds
  match rest with
  | [] => return (p, 1)
  | t :: rest =>
    if t.isFiller then return (p, 1)
    let p ← p.addDigits (← t.digits?)
    if rest.head? = some (.mark mark) then
      let third ← rest[1]?
      return (← p.addDigits (← third.digits?), 4)
    return (p, 2)

/-- Takes a number for what its length and the tokens after it suggest; tells how many of these
belong to it. -/
def addNumeral? (p : Parts) (cs : List Char) (rest : List Token) : Option (Parts × Nat) := do
  let width := cs.length
  let (ds, fraction) ← (Token.number cs).decimal?
  let n := natOf ds
  let whole := natOf fraction = 0
  let beforeColon := rest.head? = some (.mark ':')
  if p.numbers.length = 3 && (width = 2 || width = 4) && p.hour.isNone && !beforeColon then
    if ds.length < width then none
    let p := { p with hour := some (natOf (ds.take 2)) }
    return (if width = 4 then { p with minute := some (natOf (ds.drop 2)) } else p, 0)
  if width = 6 || (6 < width && ds.length = 6) then return (← p.addSix? cs, 0)
  if width = 8 || width = 12 || width = 14 then
    if ds.length < width then none else return (← p.addCompact? ds, 0)
  let isYear := 100 < n || (n = 100 && !whole)
  match rest with
  | [] => return (← p.addNumber n isYear, 0)
  | .mark ':' :: minutes :: rest => p.addClock? ds (minutes :: rest)
  | t :: rest =>
    match ['-', '/', '.'].find? fun c => t = .mark c with
    | some mark => if ds.length < width then none else p.addMarked? ds mark rest
    | none =>
      if t.isFiller then return (← p.addNumber n isYear, 1)
      else if 1 ≤ n && (n < 31 || (n = 31 && whole)) then return (← p.addNumber n false, 0)
      else none

/-- The distance from universal time after its sign: four digits, or hours and, after a colon,
minutes. Tells how many tokens belong to it. -/
def addOffset? (p : Parts) (negative : Bool) : List Token → Option (Parts × Nat)
  | t :: rest => do
    let ds ← t.digits?
    let done (hours minutes count : Nat) : Parts × Nat :=
      let n : Int := (hours * 3600 + minutes * 60 : Nat)
      ({ p with offset := some (if negative then -n else n) }, count)
    if ds.length = 4 then return done (natOf (ds.take 2)) (natOf (ds.drop 2)) 1
    if rest.head? = some (.mark ':') then
      let minutes ← (← rest[1]?).digits?
      return done (natOf ds) (natOf minutes) 3
    if ds.length ≤ 2 then return done (natOf ds) 0 1 else none
  | [] => none

/-- The name of a zone. A sign after it tells how far the zone is behind, not ahead. -/
def addZoneName? (p : Parts) (t : Token) (rest : List Token) : Option (Parts × Nat) :=
  match rest with
  | .mark c :: rest =>
    if (Token.mark c).isSign then do
      let p := { p with zoneName := if t.isUniversal then none else some false }
      let (p, count) ← p.addOffset? (c = '+') rest
      return (p, count + 1)
    else some ({ p with zoneName := some t.isUniversal }, 0)
  | _ => some ({ p with zoneName := some t.isUniversal }, 0)

/-- Takes the next token; tells how many of the tokens after it belong to it. -/
def add? (p : Parts) (t : Token) (rest : List Token) : Option (Parts × Nat) :=
  match t with
  | .number cs => p.addNumeral? cs rest
  | t =>
    if p.hour.isSome && p.zoneName.isNone && p.offset.isNone && t.isZoneName then
      p.addZoneName? t rest
    else if p.hour.isSome && t.isSign then p.addOffset? (t = .mark '-') rest
    else if t.isFiller then some (p, 0)
    else none

/-- Takes all tokens but a number of them at the front. -/
def addAll? (p : Parts) : Nat → List Token → Option Parts
  | _, [] => some p
  | skipped + 1, _ :: rest => addAll? p skipped rest
  | 0, t :: rest => do
    let (p, skipped) ← p.add? t rest
    addAll? p skipped rest

/-- Years without a century lie less than fifty years after this one, or up to fifty before. -/
def presentYear : Nat := 2026

def fullYear (year : Nat) : Nat :=
  let near := presentYear / 100 * 100 + year
  if near < presentYear + 50 then near else near - 100

/-- Year, month and day, each if there is one. -/
def day? (p : Parts) : Option (Option Nat × Option Nat × Option Nat) :=
  match p.numbers with
  | [] => some (none, none, none)
  | [a] => some (if p.yearAt.isSome || 31 < a then (some a, none, none) else (none, none, some a))
  | [a, b] =>
    some (if 31 < a then (some a, some b, none)
      else if 31 < b then (some b, some a, none)
      else (none, some a, some b))
  | [a, b, c] =>
    some (if 31 < a || p.yearAt = some 0 then (some a, some b, some c)
      else if 12 < a then (some c, some b, some a)
      else (some c, some a, some b))
  | _ => none

/-- The timestamp of the parts; one that is missing is the first that there is. -/
def toTimestamp (p : Parts) : Except Fault Timestamp := do
  let some (year, month, day) := p.day? | throw .unreadable
  if p.numbers.isEmpty && p.hour.isNone then throw .unreadable
  let fullYear (y : Nat) : Nat := if y < 100 && p.yearAt.isNone then fullYear y else y
  let date : Date := ⟨(year.map fullYear).getD 1, month.getD 1, day.getD 1⟩
  let hour := p.hour.getD 0
  let minute := p.minute.getD 0
  let second := p.second.getD 0
  if !date.isValid || 24 ≤ hour || 60 ≤ minute || 60 ≤ second then throw .fieldOutOfRange
  let offset := if p.zoneName = some true then some 0 else p.offset
  if p.zoneName = some false && offset.isNone then throw .unreadable
  if offset.any fun o => 86400 ≤ o.natAbs then throw .unreadable
  let t := ofParts date hour minute second (p.micros.getD 0 * 1000)
    (offset.map (· * 1000000)) false
  return if offset.isSome then { t with zone := .informal } else t

/-- Reads a text. A single number below a thousand is no timestamp unless a zero comes first, and a
time of day alone is none. -/
def ofText (cs : List Char) : Except Fault Timestamp :=
  match Token.ofText cs with
  | [.number (c :: ds)] =>
    if c ≠ '0' && natOf ((c :: ds).takeWhile Char.isDigit) < 1000 then .error .unreadable
    else read [.number (c :: ds)]
  | .number hours :: .mark ':' :: rest =>
    if hours.length ≤ 2 then .error .unreadable else read (.number hours :: .mark ':' :: rest)
  | tokens => read tokens
where
  read (tokens : List Token) : Except Fault Timestamp :=
    match ({} : Parts).addAll? 0 tokens with
    | some p => p.toTimestamp
    | none => .error .unreadable

end Parts

end SensorSeries.Timestamp
