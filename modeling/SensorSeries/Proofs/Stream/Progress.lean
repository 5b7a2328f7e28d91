import SensorSeries.Proofs.Stream.InMemory
import SensorSeries.Proofs.Time.Regrouping

/-!
# Reading as far as one likes

A stream over samples in memory tells the unit and the times of all samples, and it does so wherever
it has been read to and whenever it is asked first. What it has not given yet it gives to whoever asks
for an observation of the rest (`whole_from_anywhere`). The invariant is `Told`: the stream has
delivered so many samples, and knows no other times than those that its source tells everywhere.
-/

namespace SensorSeries

namespace Stream

open SensorSeries.Action

variable {σ ε : Type} {src : Source σ ε} {transformer : Option (Transformer σ)} {entities : List ε}
  {samples : List Sample} {unit : UnitOfMeasure} {times : Option Times} {reached : Nat → σ → Prop}
  {n : Nat} {s : Stream σ} {c : Call} {calls : List Call}

/-- What a call for the unit or the times is answered when these are the unit and the times of the
whole. Other calls may be answered anything. -/
def Call.Reveals (unit : UnitOfMeasure) (times : Times) (a : Except Failure (Reply ε)) : Call → Prop
  | .unit => a = .ok (.unit unit)
  | .isSetUnit => a = .ok (.flag !unit.isMissing)
  | .times => a = .ok (.times times)
  | .isSetPhenomenonTime => a = (Time.isSetOption times.phenomenon).map .flag
  | .isSetResultTime => a = .ok (.flag (times.result.any (·.isSet)))
  | .isSetValidTime => a = (Time.isSetOption times.valid).map .flag
  | _ => True

/-! ## What a stream was made with -/

/-- A stream that was made with this template and these options. -/
def MadeWith (template : Observation) (options : List (String × Datum)) (s : Stream σ) : Prop :=
  s.template = template ∧ s.options = options

namespace MadeWith

variable {template : Observation} {options : List (String × Datum)}

theorem keeps : Keeps src fun _ => MadeWith template options :=
  .of_unaffected fun _ _ _ _ hs => hs

theorem readTimes (hs : MadeWith template options s) :
    (readTimes src).EndsIn s fun _ t => MadeWith template options t := by
  refine (readTimes_frame (P := fun _ => True) src s trivial trivial).mono ?_
  rintro _ _ ⟨b, times, rfl, -⟩
  exact hs

/-- Reading a stream changes neither its template nor its options. -/
theorem after (transformer : Option (Transformer σ)) (hcalls : ∀ c ∈ calls, c.isRead = true)
    (hs : MadeWith template options s) :
    MadeWith template options (after src transformer s calls) :=
  keeps.after_reads readTimes hcalls hs

end MadeWith

/-! ## What a stream was told -/

/-- A stream that has been asked for the next entity so many times, and knows no other times than
these. -/
structure Told (entities : List ε) (unit : UnitOfMeasure) (times : Option Times)
    (reached : Nat → σ → Prop) (n : Nat) (s : Stream σ) : Prop
    extends Delivered entities unit reached n s where
  times : ∀ known ∈ s.times.known, known = times

/-- What is delivered without the times being touched leaves them known as they were. -/
theorem Told.of_untouched {α : Type} {x : Action (Stream σ) α} {a : α} {m : Nat}
    (hs : Told entities unit times reached n s)
    (hx : x.EndsIn s fun b t => b = .ok a ∧ Delivered entities unit reached m t)
    (htimes : x.EndsIn s fun _ t => t.times = s.times ∧ t.options = s.options) :
    x.EndsIn s fun b t => b = .ok a ∧ Told entities unit times reached m t := by
  refine (hx.and htimes).mono ?_
  rintro b t ⟨⟨hb, ht⟩, hsame, -⟩
  refine ⟨hb, ht, ?_⟩
  rw [hsame]
  exact hs.times

section Step

variable (h : src.Delivers entities unit reached)
  (hsamples : List.Forall₂ (fun e x => src.toSample unit e = .ok x) entities samples)
  (htimes : ∀ n b, reached n b → src.times.EndsIn b fun a b => a = .ok times ∧ reached n b)

include h

theorem Told.nextEntity (hs : Told entities unit times reached n s) :
    (nextEntity src).EndsIn s fun a t =>
      a = .ok entities[n]? ∧ Told entities unit times reached (n + 1) t :=
  hs.of_untouched (hs.toDelivered.nextEntity h)
    ((keeps_times_options s.times s.options).nextEntity ⟨rfl, rfl⟩)

theorem Told.readUnit (hs : Told entities unit times reached n s) :
    (readUnit src).EndsIn s fun a t => a = .ok unit ∧ Told entities unit times reached n t :=
  hs.of_untouched (hs.toDelivered.readUnit h)
    ((keeps_times_options s.times s.options).readUnit ⟨rfl, rfl⟩)

include hsamples in
theorem Told.nextValue (hs : Told entities unit times reached n s) :
    (nextValue src).EndsIn s fun a t =>
      a = .ok samples[n]? ∧ Told entities unit times reached (n + 1) t :=
  hs.of_untouched (hs.toDelivered.nextValue h hsamples)
    ((keeps_times_options s.times s.options).nextValue ⟨rfl, rfl⟩)

omit h in
include htimes in
theorem Told.readTimes (hs : Told entities unit times reached n s) :
    (readTimes src).EndsIn s fun a t =>
      a = .ok (times.getD {}) ∧ Told entities unit times reached n t := by
  rw [endsIn_readTimes]
  split
  · next known hknown =>
    obtain rfl := hs.times known hknown
    exact ⟨rfl, hs⟩
  · refine (htimes _ _ hs.reached).mono ?_
    rintro _ b ⟨rfl, hb⟩
    refine ⟨rfl, ⟨hb, hs.exhausted, hs.unit⟩, ?_⟩
    rintro known ⟨⟩
    rfl

include hsamples htimes

/-- **One call** is answered with the next entity or with what is true of the whole, wherever the
stream has been read to. -/
theorem Told.perform (transformer : Option (Transformer σ))
    (hs : Told entities unit times reached n s) (hc : c.isRead = true) :
    (c.perform src transformer).EndsIn s fun a t =>
      c.Reveals unit (times.getD {}) a ∧
        Told entities unit times reached (n + if c.isNext then 1 else 0) t := by
  have hunit := hs.readUnit h
  have hread := hs.readTimes htimes
  cases c with
  | nextEntity => exact (hs.nextEntity h).bind_ok fun t ht => ⟨trivial, ht⟩
  | nextValue => exact (hs.nextValue h hsamples).bind_ok fun t ht => ⟨trivial, ht⟩
  | unit => exact hunit.bind_ok fun t ht => ⟨rfl, ht⟩
  | isSetUnit =>
    have hflag : (Stream.isSetUnit src).EndsIn s fun a t =>
        a = .ok (!unit.isMissing) ∧ Told entities unit times reached n t :=
      hunit.bind_ok fun t ht => ⟨rfl, ht⟩
    exact hflag.bind_ok fun t ht => ⟨rfl, ht⟩
  | times => exact hread.bind_ok fun t ht => ⟨rfl, ht⟩
  | isSetResultTime =>
    have hflag : (Stream.isSetResultTime src).EndsIn s fun a t =>
        a = .ok ((times.getD {}).result.any (·.isSet)) ∧ Told entities unit times reached n t :=
      hread.bind_ok fun t ht => ⟨rfl, ht⟩
    exact hflag.bind_ok fun t ht => ⟨rfl, ht⟩
  | isSetPhenomenonTime =>
    have hflag : (Stream.isSetPhenomenonTime src).EndsIn s fun a t =>
        a = Time.isSetOption (times.getD {}).phenomenon ∧ Told entities unit times reached n t :=
      hread.bind_ok fun t ht => ⟨rfl, ht⟩
    exact hflag.map_eq Reply.flag
  | isSetValidTime =>
    have hflag : (Stream.isSetValidTime src).EndsIn s fun a t =>
        a = Time.isSetOption (times.getD {}).valid ∧ Told entities unit times reached n t :=
      hread.bind_ok fun t ht => ⟨rfl, ht⟩
    exact hflag.map_eq Reply.flag
  | drain | setUnit | mergeObservation | close => cases hc

/-! ## Lists of calls -/

/-- What is told of the whole is told at any place, and it does not depend on the calls before. -/
theorem Told.trace (hs : Told entities unit times reached n s)
    (hcalls : ∀ c ∈ calls, c.isRead = true) {a : Except Failure (Reply ε)}
    (hmem : (c, a) ∈ trace src transformer s calls) : c.Reveals unit (times.getD {}) a := by
  induction calls generalizing s n with
  | nil => cases hmem
  | cons first calls ih =>
    obtain ⟨hfirst, hcalls⟩ := List.forall_mem_cons.1 hcalls
    obtain ⟨ha, hs⟩ := hs.perform h hsamples htimes transformer hfirst
    rcases List.mem_cons.1 hmem with heq | hmem
    · cases heq
      exact ha
    · exact ih hs hcalls hmem

theorem Told.after (transformer : Option (Transformer σ))
    (hs : Told entities unit times reached n s) (hcalls : ∀ c ∈ calls, c.isRead = true) :
    Told entities unit times reached (n + calls.countP (·.isNext))
      (after src transformer s calls) where
  toDelivered := hs.toDelivered.after h transformer hsamples hcalls
  times := by
    refine (after_preserves (P := fun t => ∃ m, Told entities unit times reached m t) ⟨n, hs⟩ ?_).elim
      fun m ht => ht.times
    rintro c hc t ⟨m, ht⟩
    exact (ht.perform h hsamples htimes transformer (hcalls c hc)).mono fun a t ht => ⟨_, ht.2⟩

end Step

end Stream

namespace SampleList

open SensorSeries.Action

variable {samples : List Sample} {x : Sample}

/-! ## The unit of some samples -/

/-- The first unit of some samples that says something. -/
def unitOf (samples : List Sample) : UnitOfMeasure :=
  ((samples.map fun x => Result.sampleUnit x.value).find? (·.isFilled)).getD .missing

theorem unitOf_cons : unitOf (x :: samples) =
    if (Result.sampleUnit x.value).isFilled then Result.sampleUnit x.value
    else unitOf samples := by
  rw [unitOf, List.map_cons, List.find?_cons]
  cases (Result.sampleUnit x.value).isFilled with
  | true => rfl
  | false => rfl

/-- Whether a sample without a value stands before every unit that says something. -/
def Blocked (samples : List Sample) : Prop :=
  ∃ before x after, samples = before ++ x :: after ∧ x.value = none ∧
    ∀ y ∈ before, (Result.sampleUnit y.value).isFilled = false

theorem not_blocked_of_values (h : ∀ x ∈ samples, x.value ≠ none) : ¬ Blocked samples := by
  rintro ⟨before, x, after, rfl, hx, -⟩
  exact h x (List.mem_append_right before List.mem_cons_self) hx

theorem blocked_cons_iff :
    Blocked (x :: samples) ↔
      x.value = none ∨ (Result.sampleUnit x.value).isFilled = false ∧ Blocked samples := by
  constructor
  · rintro ⟨before, y, after, hsplit, hy, hbefore⟩
    cases before with
    | nil =>
      obtain ⟨rfl, -⟩ := List.cons.inj hsplit
      exact .inl hy
    | cons z before =>
      obtain ⟨rfl, rfl⟩ := List.cons.inj hsplit
      obtain ⟨hx, hbefore⟩ := List.forall_mem_cons.1 hbefore
      exact .inr ⟨hx, before, y, after, rfl, hy, hbefore⟩
  · rintro (hx | ⟨hx, before, y, after, rfl, hy, hbefore⟩)
    · exact ⟨[], x, samples, rfl, hx, List.forall_mem_nil _⟩
    · exact ⟨x :: before, y, after, rfl, hy, List.forall_mem_cons.2 ⟨hx, hbefore⟩⟩

theorem firstUnit_cons {v : Value} (hx : x.value = some v) (hv : v.IsVariant) :
    firstUnit (x :: samples) =
      if (Result.sampleUnit x.value).isFilled then .ok (Result.sampleUnit x.value)
      else firstUnit samples := by
  have hunit : v.unit = .ok (Result.sampleUnit x.value) := by
    rw [hx]
    cases v with
    | other d => exact hv.elim
    | _ => rfl
  rw [firstUnit, hx]
  simp only [hunit, ok_bind, pure_eq_ok, hx]

/-- The search for a unit fails at the first sample without a value that it comes to. -/
theorem firstUnit_of_blocked (hvalues : ∀ x ∈ samples, ∀ v ∈ x.value, v.IsVariant)
    (h : Blocked samples) : firstUnit samples = .error .noAttribute := by
  induction samples with
  | nil => exact absurd h (not_blocked_of_values (List.forall_mem_nil _))
  | cons x xs ih =>
    obtain ⟨hfirst, hvalues⟩ := List.forall_mem_cons.1 hvalues
    cases hx : x.value with
    | none => rw [firstUnit, hx]
    | some v =>
      obtain hnone | ⟨hunit, hxs⟩ := blocked_cons_iff.1 h
      · cases hx.symm.trans hnone
      · rw [firstUnit_cons hx (hfirst v hx), hunit]
        exact ih hvalues hxs

theorem firstUnit_of_not_blocked (hvalues : ∀ x ∈ samples, ∀ v ∈ x.value, v.IsVariant)
    (h : ¬ Blocked samples) : firstUnit samples = .ok (unitOf samples) := by
  induction samples with
  | nil => rfl
  | cons x xs ih =>
    obtain ⟨hfirst, hvalues⟩ := List.forall_mem_cons.1 hvalues
    cases hx : x.value with
    | none => exact absurd (blocked_cons_iff.2 (.inl hx)) h
    | some v =>
      rw [firstUnit_cons hx (hfirst v hx), unitOf_cons]
      cases hunit : (Result.sampleUnit x.value).isFilled with
      | true => rfl
      | false => exact ih hvalues fun hxs => h (blocked_cons_iff.2 (.inr ⟨hunit, hxs⟩))

theorem firstUnit_eq (h : ∀ x ∈ samples, ∃ v, x.value = some v ∧ v.IsVariant) :
    firstUnit samples = .ok (unitOf samples) := by
  refine firstUnit_of_not_blocked ?_ (not_blocked_of_values ?_)
  · intro x hx v hv
    obtain ⟨w, hw, hvariant⟩ := h x hx
    cases hw.symm.trans hv
    exact hvariant
  · intro x hx hnone
    obtain ⟨w, hw, -⟩ := h x hx
    cases hw.symm.trans hnone

/-! ## The whole -/

/-- The times of samples that this period covers, if there are any. -/
def timesWithin (hull : Option Period) : Times where
  phenomenon := hull.map .period
  result := hull.map fun p => .ofTimestamp p.stop

theorem timesOf_eq {unit : UnitOfMeasure} {hull : Option Period}
    (h : Series.IsCovered ⟨unit, samples⟩ hull) :
    ∃ times, timesOf samples = .ok times ∧ times.getD {} = timesWithin hull := by
  have htime := h.time
  unfold Series.phenomenonTime at htime
  unfold timesOf
  cases samples with
  | nil =>
    cases htime
    exact ⟨none, rfl, rfl⟩
  | cons x xs =>
    cases hp : Period.empty.extendAll ((x :: xs).map (·.time)) with
    | error e =>
      rw [hp] at htime
      cases htime
    | ok p =>
      rw [hp] at htime
      cases htime
      exact ⟨some (timesWithin (some p)), rfl, rfl⟩

/-- **A stream over samples tells of the whole from anywhere.** Whatever has been asked for, the unit
that it tells is the first of all samples that says something, the time is the hull of all samples,
and the result time is at the end of the hull; there is no time only if there is no sample. The next
samples come in order, and then none. An observation that is made then has the samples that are left,
under the same unit and time; it is made if the options go through. -/
theorem whole_from_anywhere (samples : List Sample) (template : Observation)
    (options : List (String × Datum)) (transformer : Option (Transformer SampleList))
    (hvalues : ∀ x ∈ samples, ∃ v, x.value = some v ∧ v.IsVariant)
    (hproper : ∀ x ∈ samples, Time.IsProper x.time)
    (hcomparable : Time.Comparable (samples.map (·.time))) :
    let src := source template
    let s := stream template samples options
    ∃ hull, Series.IsCovered ⟨unitOf samples, samples⟩ hull ∧
      ∀ calls : List Stream.Call, (∀ c ∈ calls, c.isRead = true) →
        (∀ c a, (c, a) ∈ Stream.trace src transformer s calls →
          c.Reveals (unitOf samples) (timesWithin hull) a) ∧
        (∀ (i : Nat) (c : Stream.Call) a,
          ((Stream.trace src transformer s calls).filter (·.1.isNext))[i]? = some (c, a) →
          c.Delivers samples[i]? samples[i]? a) ∧
        (Stream.mergeObservation src transformer).EndsIn (Stream.after src transformer s calls)
          fun a _ =>
            (∀ o, a = .ok o → o.result = some (.multi
              (some ⟨unitOf samples, samples.drop (calls.countP (·.isNext))⟩) (hull.map .period)) ∧
              o.phenomenonTime = .ok (hull.map .period)) ∧
            ((∀ l, (Reprojection.apply options transformer).EndsIn (l, template.parameters)
              fun r _ => r = .ok ()) → ∃ o, a = .ok o) := by
  intro src s
  have hunit := firstUnit_eq hvalues
  obtain ⟨hull, hcovered⟩ :=
    Series.exists_isCovered (s := ⟨unitOf samples, samples⟩) hproper hcomparable
  obtain ⟨times, htimes, hwithin⟩ := timesOf_eq hcovered
  refine ⟨hull, hcovered, fun calls hcalls => ?_⟩
  have hsource : src.Delivers samples (unitOf samples) (Reached samples) := source_delivers hunit
  have hsamples : List.Forall₂ (fun x y => src.toSample (unitOf samples) x = .ok y)
      samples samples := List.forall₂_same.2 fun _ _ => rfl
  have htold : ∀ n l, Reached samples n l →
      src.times.EndsIn l fun a l => a = .ok times ∧ Reached samples n l := by
    rintro n _ rfl
    exact ⟨htimes, rfl⟩
  have hstart : Stream.Told samples (unitOf samples) times (Reached samples) 0 s := by
    refine ⟨.start (by rw [Reached, Nat.zero_min]) template options, ?_⟩
    rintro known ⟨⟩
  have hmade : Stream.MadeWith template options (Stream.after src transformer s calls) :=
    .after transformer hcalls ⟨rfl, rfl⟩
  have hafter := hstart.after hsource hsamples htold transformer hcalls
  rw [Nat.zero_add] at hafter
  refine ⟨fun c a hmem => ?_, fun i c a hi => ?_, ?_⟩
  · rw [← hwithin]
    exact hstart.trace hsource hsamples htold hcalls hmem
  · have ha := hstart.toDelivered.answers hsource hsamples hcalls hi
    rwa [Nat.zero_add] at ha
  · have hrest := hafter.toDelivered.mergeObservation_rest transformer hsource hsamples
      (fun hl => (htold _ _ hl).mono fun _ _ h => h.1) pending_of_reached hafter.times
    obtain ⟨htemplate, hoptions⟩ := hmade
    rw [htemplate, hoptions, hwithin] at hrest
    refine hrest.mono ?_
    rintro a - ⟨hresult, hthrough⟩
    refine ⟨fun o ho => ⟨hresult o ho, ?_⟩, hthrough⟩
    rw [Observation.phenomenonTime, hresult o ho]
    cases hull with
    | some p => rfl
    | none =>
      obtain rfl : samples = [] := hcovered.none_iff.1 rfl
      rw [List.drop_nil]
      rfl

/-- One instant at no known time without a unit, and a period without end. The times are asked for
when one sample has been taken, the unit when all have been, and the rest in between. -/
theorem whole_from_anywhere_two :
    let samples : List Sample :=
      [⟨some (.instant (.ofTimestamp none)), some (.quantity (.int 1) .missing)⟩,
        ⟨some (.period ⟨some { shown := 0, offset := none }, none⟩),
          some (.quantity (.int 2) (.ofText "m"))⟩]
    let s := stream {} samples []
    let first : List Stream.Call := [.nextValue, .times]
    (∃ hull, Series.IsCovered ⟨unitOf samples, samples⟩ (some hull) ∧
      (Stream.Call.times, .ok (.times (timesWithin (some hull)))) ∈
        Stream.trace (source {}) none s first) ∧
    (Stream.mergeObservation (source {}) none).EndsIn (Stream.after (source {}) none s first)
      fun a _ => ∃ o time, a = .ok o ∧ o.result =
        some (.multi (some ⟨.ofText "m", samples.drop 1⟩) time) ∧ time ≠ none := by
  intro samples s first
  have hvalues : ∀ x ∈ samples, ∃ v, x.value = some v ∧ v.IsVariant := by
    simp only [samples, List.forall_mem_cons]
    exact ⟨⟨_, rfl, trivial⟩, ⟨_, rfl, trivial⟩, List.forall_mem_nil _⟩
  have hproper : ∀ x ∈ samples, Time.IsProper x.time := by
    simp only [samples, List.forall_mem_cons]
    exact ⟨trivial, trivial, List.forall_mem_nil _⟩
  have hcomparable : Time.Comparable (samples.map (·.time)) := by
    unfold Time.Comparable
    decide
  have hfirst : ∀ c ∈ first, c.isRead = true := by decide
  obtain ⟨hull, hcovered, hwhole⟩ :=
    whole_from_anywhere samples {} [] none hvalues hproper hcomparable
  obtain ⟨p, rfl⟩ : ∃ p, hull = some p := by
    rw [← Option.ne_none_iff_exists']
    exact fun hnone => List.cons_ne_nil _ _ (hcovered.none_iff.1 hnone)
  obtain ⟨hreveals, -, hrest⟩ := hwhole first hfirst
  have htimes : (Stream.Call.times, _) ∈ Stream.trace (source {}) none s first :=
    List.mem_cons_of_mem _ (List.mem_singleton_self _)
  refine ⟨⟨p, hcovered, ?_⟩, hrest.mono ?_⟩
  · have hanswer := hreveals _ _ htimes
    rwa [hanswer] at htimes
  · rintro a - ⟨hresult, hmade⟩
    obtain ⟨o, ho⟩ := hmade fun l => rfl
    exact ⟨o, _, ho, (hresult o ho).1, nofun⟩

end SampleList

end SensorSeries
