import SensorSeries.Order.Relations
import SensorSeries.Value.Basic

/-!
# References

A reference names a thing by an address and may give it a title. Missing and empty texts count as
the same; references are ordered by address, then by title.
-/

namespace SensorSeries

structure Reference where
  href : Option String
  title : Option String := none
  deriving DecidableEq, Repr

namespace Reference

def ofText (href : String) : Reference := { href := some href }

def isSetHref (r : Reference) : Bool := isFilled r.href

/-- The parts of the key: address, then title. -/
def keyParts (r : Reference) : List Datum :=
  [.text (r.href.getD ""), .text (r.title.getD "")]

def key (r : Reference) : Datum := .tuple r.keyParts

def literal (r : Reference) : String := "ReferenceType(" ++ optionLiteral r.href ++ ")"

def relations (a b : Reference) : Relations :=
  .ofBefore (.ok (a.key == b.key)) (ordered (a.key.before? b.key))
    (sizeOfPair (.ok true) (.ok true) (a.key == b.key))

end Reference

end SensorSeries
