import SensorSeries.Journal
import SensorSeries.Merge.Basic

/-!
# What merging writes to the journal

An entry for every refused pair and for every merge that makes a new observation; extending a
group in place writes none.
-/

namespace SensorSeries

namespace Merge

def source : String := "merge"

def refusalEntry (a b : Observation) (reason : Refusal) : JournalEntry :=
  .debug source ("refusing to merge " ++ a.literal ++ " and " ++ b.literal ++ ": " ++ reason.text)

def identifierText (o : Observation) : String := o.identifier.getD "None"

/-- How many samples an observation holds. -/
def sampleCount (o : Observation) : Nat :=
  match o.result with
  | some (.multi (some s) _) => s.samples.length
  | _ => 0

def mergedEntry (a b merged : Observation) : JournalEntry :=
  .debug source ("merged " ++ identifierText b ++ " into " ++ identifierText a ++ ", now " ++
    toString (sampleCount merged) ++ " samples")

/-- The entry of a check, if it refuses. -/
def checkEntries (a b : Observation) : List JournalEntry :=
  match Observation.refusal a b with
  | .ok (some reason) => [refusalEntry a b reason]
  | _ => []

/-- The entry of a merge that goes through. -/
def mergeEntries (a b : Observation) : List JournalEntry :=
  match a.merge b with
  | .ok merged => [mergedEntry a b merged]
  | .error _ => []

/-- The entries of placing an observation: the groups that refuse it, then the one that takes it. -/
def placeEntries (o : Observation) : List Group → List JournalEntry
  | [] => []
  | g :: rest =>
    match g.observation.canMerge o with
    | .error _ => []
    | .ok true => if g.grown then [] else mergeEntries g.observation o
    | .ok false => checkEntries g.observation o ++ placeEntries o rest

/-- The entries of placing a list of observations into groups, up to the first failure. -/
def placeAllEntries (groups : List Group) : List (Observation × Nat) → List JournalEntry
  | [] => []
  | (o, i) :: rest =>
    placeEntries o groups ++
      match Group.place o i groups with
      | .ok groups => placeAllEntries groups rest
      | .error _ => []

def mergeAllEntries (os : List Observation) : List JournalEntry := placeAllEntries [] os.zipIdx

end Merge

end SensorSeries
