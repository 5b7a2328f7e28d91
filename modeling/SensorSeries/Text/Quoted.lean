import SensorSeries.Text.Printable

/-!
# Quoted text

Two ways to write text between quotes. `quote` keeps printable characters and escapes the others by
number; it prefers single quotes and takes double ones for a text that holds single quotes alone.
`jsonQuote` writes ASCII only, with two escapes for a character beyond the first plane.
-/

namespace SensorSeries.Text

/-- `n` in lower-case hexadecimal, padded with zeros to `width` digits. -/
def hex (width n : Nat) : List Char :=
  let ds := Nat.toDigits 16 n
  List.replicate (width - ds.length) '0' ++ ds

/-- The escape of a character by its number, as short as the number allows. -/
def escapeByNumber (k : Nat) : List Char :=
  if k < 0x100 then '\\' :: 'x' :: hex 2 k
  else if k < 0x10000 then '\\' :: 'u' :: hex 4 k
  else '\\' :: 'U' :: hex 8 k

def escapeChar (mark c : Char) : List Char :=
  if c = mark || c = '\\' then ['\\', c]
  else if c = '\n' then ['\\', 'n']
  else if c = '\r' then ['\\', 'r']
  else if c = '\t' then ['\\', 't']
  else if isPrintable c then [c]
  else escapeByNumber c.toNat

/-- The quote mark that `quote` puts around a text. -/
def markOf (cs : List Char) : Char :=
  if cs.contains '\'' && !cs.contains '"' then '"' else '\''

def quote (s : String) : String :=
  let mark := markOf s.toList
  String.ofList (mark :: s.toList.flatMap (escapeChar mark) ++ [mark])

/-- One JSON escape for each of the 16-bit units of a character. -/
def jsonEscapeByNumber (k : Nat) : List Char :=
  if k < 0x10000 then '\\' :: 'u' :: hex 4 k
  else
    let rest := k - 0x10000
    ('\\' :: 'u' :: hex 4 (0xd800 + rest / 0x400)) ++ ('\\' :: 'u' :: hex 4 (0xdc00 + rest % 0x400))

def jsonEscapeChar (c : Char) : List Char :=
  if c = '"' || c = '\\' then ['\\', c]
  else if c = '\n' then ['\\', 'n']
  else if c = '\r' then ['\\', 'r']
  else if c = '\t' then ['\\', 't']
  else if c.toNat = 8 then ['\\', 'b']
  else if c.toNat = 12 then ['\\', 'f']
  else if 0x20 ≤ c.toNat && c.toNat < 0x7f then [c]
  else jsonEscapeByNumber c.toNat

def jsonQuote (s : String) : String :=
  String.ofList ('"' :: s.toList.flatMap jsonEscapeChar ++ ['"'])

/-- A name between double quotes, a double quote inside it written twice. -/
def quoteName (s : String) : String :=
  String.ofList ('"' :: s.toList.flatMap (fun c => if c = '"' then ['"', '"'] else [c]) ++ ['"'])

end SensorSeries.Text
