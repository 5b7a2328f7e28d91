import SensorSeries.Stream.Basic
import SensorSeries.Stream.Crs

/-!
# Reprojection

A reader may ask for the samples in another reference system. Then every sampling geometry among the
parameters of the observation is replaced by its image under a transformer, one after the other; a
transformer that fails leaves those that have been replaced so far. Without a transformer nothing is
replaced, and the journal says so.
-/

namespace SensorSeries

/-- Brings geometries into the reference system of a number. -/
structure Transformer (τ : Type) where
  transform : Option Geometry → Int → Action τ (Option Geometry)

namespace Reprojection

variable {τ : Type}

def journalSource : String := "streaming"

/-- Takes a parameter out of a set, or an equal one before it. -/
def takeOut (s : ParameterSet) (p : Parameter) : Except Failure ParameterSet := do
  return ⟨← ParameterSet.removeFirst (fun q => q.sameOrIdentical p) s.items⟩

def missingTransformer (target : Int) : JournalEntry :=
  .warning journalSource ("reprojection to " ++ toString target ++
    " requested, but no geometry transformer set")

def started (n : NamedValue) (target : Int) : JournalEntry :=
  .debug journalSource ("reprojecting " ++ ((n.name.map (·.literal)).getD "None") ++ " to srid " ++
    toString target)

/-- Replaces a parameter by another one. -/
def replace (p q : Parameter) : Action (τ × ParameterSet) Unit := do
  let rest ← Action.lift (takeOut (← Action.get).2 p)
  Action.modify fun (t, _) => (t, rest)
  let whole ← Action.lift (rest.add q)
  Action.modify fun (t, _) => (t, whole)

/-- Goes through the parameters and replaces the sampling geometries. -/
def replaceAll (transformer : Option (Transformer τ)) (target : Int) :
    List Parameter → Action (τ × ParameterSet) Unit
  | [] => return
  | p :: rest => do
    let n ← Action.lift p.asNamed
    match n.isSamplingGeometry, n.value with
    | true, some (.geometry g unit) =>
      match transformer with
      | none => Action.note (missingTransformer target)
      | some t => do
        Action.note (started n target)
        let image ← Action.onFirst (t.transform g target)
        replace p (.named { n with value := some (.geometry image unit) })
        replaceAll transformer target rest
    | _, _ => replaceAll transformer target rest

/-- Applies the option that asks for a reference system, if it is there. -/
def apply (options : List (String × Datum)) (transformer : Option (Transformer τ)) :
    Action (τ × ParameterSet) Unit := do
  match Datum.field? options Vocabulary.crs with
  | none => return
  | some option =>
    let target ← Action.lift (Crs.read option)
    replaceAll transformer target (← Action.get).2.items

end Reprojection

namespace Stream

variable {σ τ ε : Type}

/-- Applies the options of a stream to a parameter set; tells how that went and what it left. -/
def modified (transformer : Option (Transformer σ)) (ps : ParameterSet) :
    Action (Stream σ) (Except Failure Unit × ParameterSet) := fun s =>
  let inner := (Reprojection.apply s.options transformer).run (s.backing, ps)
  { answer := .ok (inner.answer, inner.state.2)
    state := { s with backing := inner.state.1 }
    journal := inner.journal }

/-- Applies the options of a stream to its own template. -/
def modifyTemplate (transformer : Option (Transformer σ)) : Action (Stream σ) Unit := do
  let (answer, parameters) ← modified transformer (← Action.get).template.parameters
  Action.modify fun s => { s with template := { s.template with parameters } }
  Action.lift answer

/-- All samples that are left as one observation. Identity and parameters come from the template,
and so do result time and valid time if the source knows of none. -/
def mergeObservation (src : Source σ ε) (transformer : Option (Transformer σ)) :
    Action (Stream σ) Observation := do
  let template := (← Action.get).template
  let unit ← readUnit src
  let samples ← drain src
  let times ← readTimes src
  let (answer, parameters) ← modified transformer template.parameters
  Action.lift answer
  return { template.cloneTemplate with
    identifier := template.identifier
    mergeIndicator := template.mergeIndicator
    parameters
    result := some (.multi (some ⟨unit, samples⟩) times.phenomenon)
    resultTime := times.result <|> template.resultTime
    validTime := times.valid <|> template.validTime }

end Stream

end SensorSeries
