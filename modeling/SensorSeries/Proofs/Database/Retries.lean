import SensorSeries.Proofs.Database.Delivery
import SensorSeries.Proofs.Stream.Retries

/-!
# Retries against a database

A server may fail for a while: to open a cursor, to execute its query, to give a batch, to tell the
unit. If none of these failures costs a row at the server, a reader who asks again after each of them
gets the rows from the first one on for which the unit could be told, and only these
(`retries_deliver`): a stream takes a row from those that wait before it asks for the unit, and does
not put it back. So rows are lost exactly if a query for the unit fails (`loses_row`).
-/

namespace SensorSeries.Cursor

open SensorSeries.Action

variable {κ : Type} {conn : Connection κ} {d : DataStream} {unit : UnitOfMeasure}
  {gives : κ → Option Nat → List Row → Prop} {rows rest : List Row} {n : Nat} {c : Cursor κ}

/-- The rows from this one on are those that wait, followed by those that the server has to give. -/
def Ahead (gives : κ → Option Nat → List Row → Prop) (rows : List Row) (n : Nat) (c : Cursor κ) :
    Prop :=
  ∃ rest, c.buffer ++ rest = rows.drop n ∧ gives c.connection c.cursor rest

/-- The open cursor, or one that is opened; without one, nothing has changed. -/
theorem current_recovers (h : conn.Recovers d unit gives) (hbuffer : c.buffer = [])
    (hc : gives c.connection c.cursor rest) :
    (current conn d).EndsIn c fun a c => c.buffer = [] ∧ gives c.connection c.cursor rest ∧
      ∀ n, a = .ok n → c.cursor = some n := by
  rw [endsIn_current_iff]
  split
  · next n hn =>
    refine ⟨hbuffer, hc, ?_⟩
    rintro _ ⟨⟩
    exact hn
  · next hnone =>
    rw [hnone] at hc
    rw [endsIn_openOn_iff]
    refine (h.opening hc).mono ?_
    rintro (e | n) k hk
    · dsimp only at hk ⊢
      rw [← hnone] at hk
      exact ⟨hbuffer, hk, nofun⟩
    · refine hk.mono ?_
      rintro (e | _) k hk
      · refine hk.mono ?_
        rw [← hnone]
        rintro (f | _) k hk
        · exact ⟨hbuffer, hk, nofun⟩
        · exact ⟨hbuffer, hk, nofun⟩
      · refine ⟨hbuffer, hk, ?_⟩
        rintro _ ⟨⟩
        rfl

/-- **A failure leaves the rows where they are**, and a row that is fetched is the next one. -/
theorem source_recovers (h : conn.Recovers d unit gives) (rows : List Row) :
    (source conn d).Recovers rows unit (Ahead gives rows) where
  fetch {n c} hc := by
    obtain ⟨rest, hrest, hgives⟩ := hc
    change (fetch conn d).EndsIn c _
    rw [endsIn_fetch_iff]
    split
    · next row waiting hbuffer =>
      rw [hbuffer, List.cons_append] at hrest
      refine ⟨?_, rest, ?_, hgives⟩
      · rw [← List.head?_drop, ← hrest]
        rfl
      · rw [← List.tail_drop, ← hrest]
        rfl
    · next hbuffer =>
      rw [hbuffer, List.nil_append] at hrest
      refine (current_recovers h hbuffer hgives).mono ?_
      rintro (e | m) c ⟨hbuffer, hgives, hcursor⟩
      · exact ⟨trivial, rest, by rw [hbuffer, hrest]; rfl, hgives⟩
      · have hcursor := hcursor m rfl
        rw [hcursor] at hgives
        refine (h.fetchMany hgives).mono ?_
        rintro (e | _ | ⟨row, batch⟩) k hk
        · exact ⟨trivial, rest, by rw [hbuffer, hrest]; rfl, hcursor ▸ hk⟩
        · obtain ⟨rest', hbatch, hend, hk⟩ := hk
          have hnil : rows.drop n = [] := hrest ▸ hend rfl
          refine ⟨?_, rest', ?_, hcursor ▸ hk⟩
          · rw [← List.head?_drop, hnil]
            rfl
          · rw [hbuffer, ← List.tail_drop, hnil]
            exact hbatch.symm.trans (hend rfl)
        · obtain ⟨rest', hbatch, -, hk⟩ := hk
          have hdrop : rows.drop n = row :: (batch ++ rest') := hrest.symm.trans hbatch
          refine ⟨?_, rest', ?_, hcursor ▸ hk⟩
          · rw [← List.head?_drop, hdrop]
            rfl
          · rw [← List.tail_drop, hdrop]
            rfl
  unit {n c} hc := by
    obtain ⟨rest, hrest, hgives⟩ := hc
    refine (endsIn_bind ..).2 ((endsIn_askRow _ _).2 ((h.unit hgives).mono ?_))
    rintro (e | row) k ⟨hk, hunit⟩
    · exact ⟨⟨rest, hrest, hk⟩, nofun⟩
    · refine ⟨⟨rest, hrest, hk⟩, ?_⟩
      intro u hu
      have hsame : unitOf row = .ok u := hu
      rw [hunit row rfl] at hsame
      cases hsame
      rfl
  convert row := ⟨_, rfl⟩

/-- **A reader who asks again gets every row but the first ones**, as many as there were queries for the
unit that failed. Every failure that the reader sees is one of a query. What has come so far stands
at the front of these rows; it is all of them when a call is answered with none, which comes about
when there were more calls than rows and failures. The source lists its queries so that they can be
counted; without the list it gives the same answers. -/
theorem retries_deliver {samples : List Sample} {k : κ} (h : conn.Recovers d unit gives)
    (hk : gives k none rows)
    (hsamples : List.Forall₂ (fun row x => row.toSample unit = .ok x) rows samples)
    (transformer : Option (Transformer (Cursor κ × List Inquiry))) (template : Observation)
    (options : List (String × Datum)) (n : Nat) :
    let src := (source conn d).recorded
    let s : Stream (Cursor κ × List Inquiry) :=
      { backing := ({ connection := k }, []), template, options }
    let calls := List.replicate n Stream.Call.nextValue
    let answers := (Stream.trace src transformer s calls).map (·.2)
    let delivered := answers.filterMap Stream.sampleOf
    let failures := answers.filterMap failureOf
    let lost := (Stream.after src transformer s calls).backing.2.countP Inquiry.isFailedUnit
    (∀ e ∈ failures, e.isQuery = true) ∧
    lost ≤ samples.length ∧ delivered <+: samples.drop lost ∧
    (answers.any Stream.isEnd = true → delivered = samples.drop lost) ∧
    (samples.length + failures.length < n → answers.any Stream.isEnd = true) ∧
    ∀ plain : Option (Transformer (Cursor κ)), answers = (Stream.trace (source conn d) plain
      { backing := { connection := k }, template, options } calls).map (·.2) := by
  intro src s calls answers delivered failures lost
  have hahead : Ahead gives rows 0 { connection := k } := ⟨rows, rfl, hk⟩
  have hstart : Stream.Retried rows samples unit (Ahead gives rows) 0 [] s :=
    .start hahead template options
  obtain ⟨m, -, hs, hquery, hend, hcount⟩ :=
    hstart.run (source_recovers h rows) hsamples transformer n
  obtain ⟨hlost, hprefix, hall⟩ := hs.came
  refine ⟨hquery, hlost, hprefix, fun hany => hall (hend hany), ?_, ?_⟩
  · intro hn
    cases hany : answers.any Stream.isEnd with
    | true => rfl
    | false =>
      -- Without an end there is a sample or a failure to each call, so there are not that many.
      have hone : delivered.length + failures.length = n := hcount hany
      have hfew : delivered.length ≤ samples.length - lost := by
        rw [← List.length_drop]
        exact hprefix.length_le
      omega
  · intro plain
    have hplain := (source conn d).recorded_wraps.trace plain s calls
    have hsame : Stream.trace src transformer s calls =
        Stream.trace src (plain.map (·.onFirst)) s calls := Stream.trace_nextValue _ _ s n
    exact congrArg (List.map (·.2)) (hsame.trans hplain)

/-- Two rows; the cursor cannot be opened at first, and then the first batch fails. -/
theorem retries_deliver_steady :
    let rows := [textRow "a", textRow "b"]
    let unit := UnitOfMeasure.ofText "1"
    let d : DataStream :=
      { schema := "s", id := .int 1, start := .text "-Infinity", stop := .text "Infinity"
        fetchSize := .int 1 }
    let plan : RequestPlan := fun kind n =>
      if (kind = .openCursor ∨ kind = .fetchMany) ∧ n = 1 then some .database else none
    let src := (source (Rehearsal.steady unit) d).recorded
    let s : Stream (Cursor Rehearsal × List Inquiry) :=
      { backing := ({ connection := { rows, plan } }, []), template := {} }
    let answers := (Stream.trace src none s (List.replicate 5 .nextValue)).map (·.2)
    answers.filterMap Stream.sampleOf = [textSample "a" unit, textSample "b" unit] := by
  intro rows unit d plan src s answers
  have hrecovers : (Rehearsal.steady unit).Recovers d unit Rehearsal.Left :=
    Rehearsal.steady_recovers rfl (by decide)
  have hleft : Rehearsal.Left { rows, plan } none rows := rfl
  have hsamples : List.Forall₂ (fun row x => row.toSample unit = .ok x) rows
      [textSample "a" unit, textSample "b" unit] :=
    .cons (toSample_textRow "a" unit) (.cons (toSample_textRow "b" unit) .nil)
  obtain ⟨-, -, -, hall, -⟩ := retries_deliver hrecovers hleft hsamples none {} [] 5
  have hend : answers.any Stream.isEnd = true := by decide +kernel
  let lost := (Stream.after src none s (List.replicate 5 .nextValue)).backing.2.countP
    Inquiry.isFailedUnit
  have hlost : lost = 0 := by decide +kernel
  have hdelivered : answers.filterMap Stream.sampleOf =
      [textSample "a" unit, textSample "b" unit].drop lost := by
    with_reducible exact hall hend
  rw [hdelivered, hlost]
  rfl

/-- A row is lost when the first query for the unit fails, though the reader asks again and no failure
costs a row at the server. -/
theorem loses_row :
    let rows := [textRow "a", textRow "b"]
    let unit := UnitOfMeasure.ofText "1"
    let d : DataStream :=
      { schema := "s", id := .int 1, start := .text "-Infinity", stop := .text "Infinity"
        fetchSize := .int 2 }
    let plan : RequestPlan := fun kind n =>
      if kind = .readRow ∧ n = 1 then some .database else none
    let samples := [textSample "a" unit, textSample "b" unit]
    let src := (source (Rehearsal.steady unit) d).recorded
    let s : Stream (Cursor Rehearsal × List Inquiry) :=
      { backing := ({ connection := { rows, plan } }, []), template := {} }
    let answers := (Stream.trace src none s (List.replicate 4 .nextValue)).map (·.2)
    (Rehearsal.steady unit).Recovers d unit Rehearsal.Left ∧
      Rehearsal.Left { rows, plan } none rows ∧
      List.Forall₂ (fun row x => row.toSample unit = .ok x) rows samples ∧
      answers.any Stream.isEnd = true ∧ answers.filterMap Stream.sampleOf ≠ samples := by
  intro rows unit d plan samples src s answers
  have hsamples : List.Forall₂ (fun row x => row.toSample unit = .ok x) rows samples :=
    .cons (toSample_textRow "a" unit) (.cons (toSample_textRow "b" unit) .nil)
  have hend : answers.any Stream.isEnd = true := by decide +kernel
  have hone : (answers.filterMap Stream.sampleOf).length = 1 := by decide +kernel
  refine ⟨Rehearsal.steady_recovers rfl (by decide), rfl, hsamples, hend, ?_⟩
  intro hall
  rw [hall] at hone
  cases hone

end SensorSeries.Cursor
