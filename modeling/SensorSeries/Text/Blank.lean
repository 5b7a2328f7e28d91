/-!
# Blank characters

The characters that surround a number or a word without belonging to it: the space separators, the
line and paragraph separators, and the controls that move the pen. `strip` drops them at both ends.
-/

namespace SensorSeries.Text

/-- Ranges of blank characters, both ends included. -/
def blankRanges : List (Nat × Nat) :=
  [(0x09, 0x0d), (0x1c, 0x20), (0x85, 0x85), (0xa0, 0xa0), (0x1680, 0x1680), (0x2000, 0x200a),
   (0x2028, 0x2029), (0x202f, 0x202f), (0x205f, 0x205f), (0x3000, 0x3000)]

def isBlank (c : Char) : Bool :=
  blankRanges.any fun (first, last) => first ≤ c.toNat && c.toNat ≤ last

/-- The four controls that separate fields, records and larger units of data; they are blanks too.
-/
def isInformationSeparator (c : Char) : Bool := 0x1c ≤ c.toNat && c.toNat ≤ 0x1f

/-- Drops the characters of a class at both ends. -/
def stripBy (drop : Char → Bool) (cs : List Char) : List Char :=
  ((cs.dropWhile drop).reverse.dropWhile drop).reverse

/-- Drops the blanks at both ends. -/
def strip (s : String) : String := String.ofList (stripBy isBlank s.toList)

/-- Drops the blanks at both ends and makes one space of every other run of blanks. `started` tells
whether a character has been kept, `gap` whether a blank has come since. -/
def squeezeFrom (started gap : Bool) : List Char → List Char
  | [] => []
  | c :: rest =>
    if isBlank c then squeezeFrom started true rest
    else if started && gap then ' ' :: c :: squeezeFrom true false rest
    else c :: squeezeFrom true false rest

def squeeze (s : String) : String := String.ofList (squeezeFrom false false s.toList)

end SensorSeries.Text
