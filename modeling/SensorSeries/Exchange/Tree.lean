import SensorSeries.Failure

/-!
# Trees

The form in which observations are exchanged: words, numbers, lists, and nodes of named fields. A
tree may tell at some place that there is a failure instead of a content. A field that a node does
not have is empty.
-/

namespace SensorSeries

inductive Tree where
  | empty
  | flag (b : Bool)
  | number (n : Int)
  | double (x : Binary64)
  | text (s : String)
  | list (items : List Tree)
  | node (fields : List (String × Tree))
  | failure (f : Failure)

namespace Tree

instance : Inhabited Tree := ⟨.empty⟩

def fields : Tree → List (String × Tree)
  | .node fields => fields
  | _ => []

def field? (t : Tree) (name : String) : Option Tree :=
  (t.fields.find? (·.1 == name)).map (·.2)

def field (t : Tree) (name : String) : Tree := (t.field? name).getD .empty

def has (t : Tree) (name : String) : Bool := (t.field? name).isSome

def items : Tree → List Tree
  | .list items => items
  | _ => []

def text? : Tree → Option String
  | .text s => some s
  | _ => none

/-- The text of a tree, empty if it is none. -/
def word (t : Tree) : String := t.text?.getD ""

end Tree

end SensorSeries
