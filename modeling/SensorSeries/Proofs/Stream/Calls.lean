import SensorSeries.Proofs.Stream.Outcomes
import SensorSeries.Stream.Reprojection

/-!
# Calls of a stream

A reader uses a stream by calling it: for its entities and samples, for its unit and times, and to
close it. `trace` is a list of calls with their answers, `after` the stream that they leave. A call
that fails does not end the list; what it has changed stays, and the next call goes on from there.
What every call preserves, a list of calls preserves (`after_preserves`).
-/

namespace SensorSeries

namespace Stream

/-- What a stream can be asked for. -/
inductive Call where
  | nextEntity
  | nextValue
  /-- All samples that are left. -/
  | drain
  | unit
  | isSetUnit
  | setUnit (unit : UnitOfMeasure)
  | times
  | isSetPhenomenonTime
  | isSetResultTime
  | isSetValidTime
  | mergeObservation
  | close

/-- What a stream answers. -/
inductive Reply (ε : Type) where
  | entity (e : Option ε)
  | sample (s : Option Sample)
  | samples (ss : List Sample)
  | unit (u : UnitOfMeasure)
  | times (t : Times)
  | flag (b : Bool)
  | observation (o : Observation)
  | done

variable {σ ε : Type}

/-- What a call for the next entity is answered when there is none. -/
def Reply.isEnd : Reply ε → Bool
  | .entity none | .sample none => true
  | _ => false

namespace Call

def perform (src : Source σ ε) (transformer : Option (Transformer σ)) :
    Call → Action (Stream σ) (Reply ε)
  | .nextEntity => do return .entity (← Stream.nextEntity src)
  | .nextValue => do return .sample (← Stream.nextValue src)
  | .drain => do return .samples (← Stream.drain src)
  | .unit => do return .unit (← readUnit src)
  | .isSetUnit => do return .flag (← Stream.isSetUnit src)
  | .setUnit u => do
    Stream.setUnit u
    return .done
  | .times => do return .times (← readTimes src)
  | .isSetPhenomenonTime => do return .flag (← Stream.isSetPhenomenonTime src)
  | .isSetResultTime => do return .flag (← Stream.isSetResultTime src)
  | .isSetValidTime => do return .flag (← Stream.isSetValidTime src)
  | .mergeObservation => do return .observation (← Stream.mergeObservation src transformer)
  | .close => do
    Stream.close src
    return .done

/-- Whether a call is for the next entity, as it is or as a sample. -/
def isNext : Call → Bool
  | .nextEntity | .nextValue => true
  | _ => false

/-- Whether a call is for the next entity or for what is known of the whole. -/
def isRead : Call → Bool
  | .drain | .setUnit _ | .mergeObservation | .close => false
  | _ => true

end Call

/-! ## Lists of calls -/

variable (src : Source σ ε) (transformer : Option (Transformer σ))

/-- The stream after some calls. -/
def after (s : Stream σ) (calls : List Call) : Stream σ :=
  calls.foldl (fun s c => ((c.perform src transformer).run s).state) s

/-- Calls with their answers. -/
def trace (s : Stream σ) : List Call → List (Call × Except Failure (Reply ε))
  | [] => []
  | c :: calls =>
    let outcome := (c.perform src transformer).run s
    (c, outcome.answer) :: trace outcome.state calls

variable {src transformer} {s : Stream σ} {c : Call} {calls : List Call}

theorem after_cons (s : Stream σ) (c : Call) (calls : List Call) :
    after src transformer s (c :: calls) =
      after src transformer ((c.perform src transformer).run s).state calls := rfl

theorem after_append (s : Stream σ) (xs ys : List Call) :
    after src transformer s (xs ++ ys) =
      after src transformer (after src transformer s xs) ys :=
  List.foldl_append

@[simp] theorem map_fst_trace (s : Stream σ) (calls : List Call) :
    (trace src transformer s calls).map (·.1) = calls := by
  induction calls generalizing s with
  | nil => rfl
  | cons c calls ih => rw [trace, List.map_cons, ih]

/-- There is one answer to each call for the next entity. -/
theorem length_filter_trace (s : Stream σ) (calls : List Call) :
    ((trace src transformer s calls).filter (·.1.isNext)).length = calls.countP (·.isNext) := by
  have h : ((trace src transformer s calls).map (·.1)).countP (·.isNext) =
      calls.countP (·.isNext) := by
    rw [map_fst_trace]
  rw [List.countP_map] at h
  rw [← List.countP_eq_length_filter]
  exact h

/-- **What every call preserves, a list of calls preserves.** -/
theorem after_preserves {P : Stream σ → Prop} (hs : P s)
    (hstep : ∀ c ∈ calls, ∀ s, P s → (c.perform src transformer).EndsIn s fun _ s => P s) :
    P (after src transformer s calls) := by
  induction calls generalizing s with
  | nil => exact hs
  | cons c calls ih =>
    obtain ⟨hc, hcalls⟩ := List.forall_mem_cons.1 hstep
    exact ih (hc s hs) hcalls

/-- What reading the unit and the times preserves, every call preserves that asks for what is known
of the whole. -/
theorem Call.perform_preserves {P : Stream σ → Prop}
    (hunit : ∀ s, P s → (readUnit src).EndsIn s fun _ s => P s)
    (htimes : ∀ s, P s → (readTimes src).EndsIn s fun _ s => P s)
    (hread : c.isRead = true) (hnext : c.isNext = false) (hs : P s) :
    (c.perform src transformer).EndsIn s fun _ s => P s := by
  cases c with
  | unit => exact (hunit s hs).bind_pure _
  | isSetUnit => exact ((hunit s hs).bind_pure _).bind_pure _
  | times => exact (htimes s hs).bind_pure _
  | isSetPhenomenonTime => exact ((htimes s hs).bind_lift _).bind_pure _
  | isSetResultTime => exact ((htimes s hs).bind_pure _).bind_pure _
  | isSetValidTime => exact ((htimes s hs).bind_lift _).bind_pure _
  | nextEntity | nextValue => cases hnext
  | drain | setUnit | mergeObservation | close => cases hread

end Stream

end SensorSeries
