import SensorSeries.Attempt
import SensorSeries.Merge.Basic

/-!
# Workspaces

A workspace holds observations under names. Two names may stand for one observation, and two
observations may hold one and the same parameter set, result or valid time: a copy shares result
and valid time with what it was made from, a clone of a template shares the parameters. A change
in place of a shared part shows in every observation that holds it; assigning a part ends the
sharing. A datum in place of a constellation is marked when it comes in, so that it can be told from
one that looks like it.
-/

namespace SensorSeries

/-- An observation with the numbers of the parts that it may share with others. -/
structure Held where
  observation : Observation
  parametersPart : Nat
  resultPart : Nat
  validTimePart : Nat

structure Workspace where
  held : List Held := []
  /-- Which observation a name stands for. -/
  names : List (String × Nat) := []
  /-- No part has this number or a greater one. -/
  freshPart : Nat := 0

/-- A new content for one field of an observation. -/
inductive Assignment where
  | identifier (s : Option String)
  | constellation (a : Option Affiliation)
  | result (r : Option Result)
  | resultTime (t : Option Instant)
  | validTime (t : Option Time)
  | parameters (ps : ParameterSet)
  | quality (notes : List Datum)
  | mergeIndicator (s : Option String)
  | resultType (s : Option String)
  | tokenSeparator (s : Option String)
  | tupleSeparator (s : Option String)
  | decimalSeparator (s : Option String)
  | noDataValue (s : Option String)
  | documentId (s : Option String)

/-- The field of an observation after an assignment. -/
def Observation.assign (o : Observation) : Assignment → Observation
  | .identifier s => { o with identifier := s }
  | .constellation a => { o with constellation := a }
  | .result r => { o with result := r }
  | .resultTime t => { o with resultTime := t }
  | .validTime t => { o with validTime := t }
  | .parameters ps => { o with parameters := ps }
  | .quality notes => { o with quality := notes }
  | .mergeIndicator s => { o with mergeIndicator := s }
  | .resultType s => { o with resultType := s }
  | .tokenSeparator s => { o with tokenSeparator := s }
  | .tupleSeparator s => { o with tupleSeparator := s }
  | .decimalSeparator s => { o with decimalSeparator := s }
  | .noDataValue s => { o with noDataValue := s }
  | .documentId s => { o with documentId := s }

namespace Workspace

/-! ## Names -/

def index? (w : Workspace) (name : String) : Option Nat :=
  (w.names.find? (·.1 == name)).map (·.2)

/-- The number of the observation that a name stands for, and the observation. -/
def find (w : Workspace) (name : String) : Except Failure (Nat × Held) :=
  match w.index? name with
  | none => .error .unknownName
  | some i =>
    match w.held[i]? with
    | some h => .ok (i, h)
    | none => .error .unknownName

def observation (w : Workspace) (name : String) : Except Failure Observation := do
  return (← w.find name).2.observation

/-- Lets a name stand for the observation of a number. -/
def bind (w : Workspace) (name : String) (i : Nat) : Workspace :=
  { w with names := (name, i) :: w.names.filter (·.1 != name) }

/-- Stores an observation under a name. Parts for which no number is given are its own. -/
def store (w : Workspace) (name : String) (o : Observation)
    (parametersPart resultPart validTimePart : Option Nat) : Workspace :=
  let n := w.freshPart
  let h : Held :=
    { observation := o
      parametersPart := parametersPart.getD n
      resultPart := resultPart.getD (n + 1)
      validTimePart := validTimePart.getD (n + 2) }
  let grown : Workspace := { held := w.held ++ [h], names := w.names, freshPart := n + 4 }
  grown.bind name w.held.length

/-- Stores an observation all of whose parts are its own. -/
def put (w : Workspace) (name : String) (o : Observation) : Workspace :=
  let constellation := o.constellation.map (·.marked (w.freshPart + 3))
  w.store name { o with constellation } none none none

/-- Changes one observation. -/
def modify (w : Workspace) (i : Nat) (change : Held → Held) : Workspace :=
  { w with held := w.held.modify i change }

/-- Changes all observations that pass a test. -/
def modifyWhere (w : Workspace) (test : Held → Bool) (change : Observation → Observation) :
    Workspace :=
  { w with held := w.held.map fun h =>
      if test h then { h with observation := change h.observation } else h }

/-! ## New observations -/

def copy (w : Workspace) (source name : String) : Except Failure Workspace := do
  let (_, h) ← w.find source
  return w.store name h.observation none h.resultPart h.validTimePart

def cloneTemplate (w : Workspace) (source name : String) : Except Failure Workspace := do
  let (_, h) ← w.find source
  return w.store name h.observation.cloneTemplate h.parametersPart none none

def merge (w : Workspace) (first second name : String) : Except Failure Workspace := do
  let (_, a) ← w.find first
  let (_, b) ← w.find second
  return w.store name (← a.observation.merge b.observation) none none a.validTimePart

def mergeResult (w : Workspace) (source : String) (r : Option Result) (name : String) :
    Except Failure Workspace := do
  let (_, h) ← w.find source
  return w.store name (← h.observation.mergeResult r) none none h.validTimePart

/-- Names a group: a group of one is the observation that began it. -/
def nameGroup (members : List (Nat × Held)) (w : Workspace) (name : String) (g : Group) :
    Workspace :=
  match members[g.first]? with
  | none => w
  | some (i, h) =>
    if g.grown then w.store name g.observation none none h.validTimePart else w.bind name i

/-- Merges the observations of a list and names the groups by number; tells how many there are. -/
def mergeAll (w : Workspace) (names : List String) (name : String) :
    Except Failure (Workspace × Nat) := do
  let members ← names.mapM w.find
  let groups ← Group.ofList (members.map (·.2.observation))
  let w := groups.zipIdx.foldl (fun w (g, k) => nameGroup members w (name ++ toString k) g) w
  return (w, groups.length)

/-! ## Changes in place -/

/-- Assigns a field; a part that is assigned is shared no longer. -/
def assign (w : Workspace) (name : String) (a : Assignment) : Except Failure Workspace := do
  let (i, _) ← w.find name
  let n := w.freshPart
  let change (h : Held) : Held :=
    let h := { h with observation := h.observation.assign a }
    match a with
    | .constellation c => { h with observation.constellation := c.map (·.marked n) }
    | .parameters _ => { h with parametersPart := n }
    | .result _ => { h with resultPart := n }
    | .validTime _ => { h with validTimePart := n }
    | _ => h
  return { w.modify i change with freshPart := n + 1 }

/-- Asks for the document identifier, which settles it. -/
def documentId (w : Workspace) (name : String) : Except Failure (Workspace × Option String) := do
  let (i, h) ← w.find name
  let w := w.modify i fun h => { h with observation := h.observation.settleDocumentId }
  return (w, h.observation.effectiveDocumentId)

def addParameter (w : Workspace) (name : String) (p : Parameter) : Except Failure Workspace := do
  let (_, h) ← w.find name
  let parameters ← h.observation.parameters.add p
  return w.modifyWhere (·.parametersPart == h.parametersPart) fun o => { o with parameters }

/-- Adds notes; those before one that cannot be added stay. -/
def addQuality (w : Workspace) (name : String) (d : Datum) :
    Except (Stopped Workspace) Workspace := do
  let (i, h) ← Attempt.orLeave w (w.find name)
  let place (o : Observation) : Workspace := w.modify i fun h => { h with observation := o }
  match h.observation.addQuality d with
  | .ok o => return place o
  | .error stopped => throw ⟨stopped.cause, place stopped.left⟩

/-- Adds a sample to the series of an observation. -/
def appendSample (w : Workspace) (name : String) (s : Sample) : Except Failure Workspace := do
  let (_, h) ← w.find name
  match h.observation.result with
  | some (.multi (some series) time) =>
    let result := some (Result.multi (some (series.add s)) time)
    return w.modifyWhere (·.resultPart == h.resultPart) fun o => { o with result }
  | _ => throw .noAttribute

/-- Widens the valid time of an observation, which must be a period. Where a list stands in place of
one, it grows by what can be taken out of the other time. -/
def extendValidTime (w : Workspace) (name : String) (t : Option Time) :
    Except (Stopped Workspace) Workspace := do
  let (_, h) ← Attempt.orLeave w (w.find name)
  let place (t : Time) : Workspace :=
    w.modifyWhere (·.validTimePart == h.validTimePart) fun o => { o with validTime := some t }
  match h.observation.validTime, t with
  | some (.period p), t =>
    match p.extend t with
    | .ok q => return place (.period q)
    | .error stopped => throw ⟨stopped.cause, place (.period stopped.left)⟩
  | some (.other (.list items)), some (.other d) =>
    match d.elements? with
    | some more => return place (.other (.list (items ++ more)))
    | none => throw ⟨.wrongKind, w⟩
  | some (.other (.list _)), _ => throw ⟨.wrongKind, w⟩
  | _, _ => throw ⟨.noAttribute, w⟩

end Workspace

end SensorSeries
