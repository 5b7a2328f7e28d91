import SensorSeries.Number.Binary64
import SensorSeries.Text.Blank
import SensorSeries.Text.Digit

/-!
# Numerals

How numbers are read from text. Both readers drop the padding around a numeral, take decimal digits
of every script, and allow one underscore between two digits. `integer?` reads a sign and digits;
`decimal?` also takes a point, an exponent, an infinity or a NaN, and rounds to the nearest double.
-/

namespace SensorSeries.Numeral

open Text

/-- What may surround a numeral: blanks, but no separators of information. -/
def isPadding (c : Char) : Bool := isBlank c && !isInformationSeparator c

/-- The most digits an integer numeral may have. -/
def maxDigits : Nat := 4300

/-- The number that digits with single underscores between them denote. `value` is what has been
read, `afterDigit` whether the last character was a digit. -/
def digitsFrom (value : Nat) (afterDigit : Bool) : List Char → Option Nat
  | [] => if afterDigit then some value else none
  | c :: rest =>
    if c = '_' then
      if afterDigit then digitsFrom value false rest else none
    else
      match digit? c with
      | some d => digitsFrom (10 * value + d) true rest
      | none => none

def digits? (cs : List Char) : Option Nat := digitsFrom 0 false cs

/-- Splits off one leading sign; the flag tells a minus. -/
def splitSign : List Char → Bool × List Char
  | '-' :: rest => (true, rest)
  | '+' :: rest => (false, rest)
  | cs => (false, cs)

def signed (negative : Bool) (n : Nat) : Int := if negative then -n else n

/-- Reads an integer numeral of at most `maxDigits` digits. -/
def integer? (s : String) : Option Int :=
  let (negative, body) := splitSign (stripBy isPadding s.toList)
  if maxDigits < (body.filter (· != '_')).length then none
  else (digits? body).map (signed negative)

/-! ## Decimal numerals -/

/-- Replaces every decimal digit by the Latin one of its value. -/
def latinDigit (c : Char) : Char := ((digit? c).map digitChar).getD c

/-- Removes underscores; each must stand between two digits. `afterDigit` and `afterUnderscore` say
what the last character was. -/
def dropUnderscores? (afterDigit afterUnderscore : Bool) : List Char → Option (List Char)
  | [] => if afterUnderscore then none else some []
  | c :: rest =>
    if c = '_' then
      if afterDigit then dropUnderscores? false true rest else none
    else if afterUnderscore && !c.isDigit then none
    else (dropUnderscores? c.isDigit false rest).map (c :: ·)

/-- The number that a row of Latin digits denotes. -/
def natOf (cs : List Char) : Nat := cs.foldl (fun n c => 10 * n + (c.toNat - '0'.toNat)) 0

/-- Decimal exponents beyond this, counted at the leading digit, overflow or vanish. -/
def exponentReach : Int := 400

/-- The double nearest to `±m · 10^e`. -/
def scaled (negative : Bool) (m : Nat) (e : Int) : Binary64 :=
  let lead := (Nat.toDigits 10 m).length + e
  if m = 0 || lead < -exponentReach then .finite negative 0
  else if exponentReach < lead then .infinite negative
  else if 0 ≤ e then .ofRatio negative (m * Nat.pow 10 e.toNat) 1
  else .ofRatio negative m (Nat.pow 10 (-e).toNat)

/-- What may follow the digits of a decimal: nothing, or an exponent with at least one digit. -/
def exponent? : List Char → Option Int
  | [] => some 0
  | c :: rest =>
    if c = 'e' || c = 'E' then
      let (negative, digits) := splitSign rest
      if digits.isEmpty || digits.any (!·.isDigit) then none
      else some (signed negative (natOf digits))
    else none

/-- A decimal without sign: digits, a point, digits, an exponent, with a digit before the
exponent. -/
def unsigned? (negative : Bool) (cs : List Char) : Option Binary64 :=
  let whole := cs.takeWhile Char.isDigit
  let afterWhole := cs.dropWhile Char.isDigit
  let (fraction, rest) := match afterWhole with
    | '.' :: more => (more.takeWhile Char.isDigit, more.dropWhile Char.isDigit)
    | _ => ([], afterWhole)
  if whole.isEmpty && fraction.isEmpty then none
  else
    (exponent? rest).map fun e =>
      scaled negative (natOf (whole ++ fraction)) (e - fraction.length)

/-- The words for infinity and NaN, in any case of letters. -/
def word? (negative : Bool) (cs : List Char) : Option Binary64 :=
  let word := String.ofList (cs.map Char.toLower)
  if word = "inf" || word = "infinity" then some (.infinite negative)
  else if word = "nan" then some .nan
  else none

/-- Reads a decimal numeral, to the nearest double. -/
def decimal? (s : String) : Option Binary64 := do
  let cs ← dropUnderscores? false false ((stripBy isPadding s.toList).map latinDigit)
  let (negative, body) := splitSign cs
  (word? negative body) <|> unsigned? negative body

end SensorSeries.Numeral
