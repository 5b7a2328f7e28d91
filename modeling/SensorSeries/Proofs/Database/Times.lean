import SensorSeries.Proofs.Database.Delivery
import SensorSeries.Proofs.Database.Recorded
import SensorSeries.Proofs.Stream.InMemory

/-!
# Times from a database

A stream over a database learns its times from aggregates, without reading the rows. If the server
takes them over the rows that the query for samples gives, they tell the time that the samples of
these rows cover (`times_agree`), and the observation of all samples is given that time.
-/

namespace SensorSeries

namespace Cursor

open SensorSeries.Action
open SensorSeries.Recorded (Tells Consistent Summarizes)

variable {κ : Type} {conn : Connection κ} {d : DataStream} {unit : UnitOfMeasure}
  {gives : κ → Option Nat → List Row → Prop} {rows : List Row} {told : Row} {n : Nat}
  {c : Cursor κ}

theorem pending_of_reached (h : conn.Informs d unit gives told) (hc : Reached gives rows n c) :
    rows.length ≤ n + (source conn d).pending c := by
  obtain ⟨rest, hrest, hgives⟩ := hc.ahead
  have hahead : c.buffer.length + rest.length = rows.length - n := by
    rw [← List.length_append, hrest, List.length_drop]
  have hpending := h.pending hgives
  change rows.length ≤ n + (c.buffer.length + conn.pending c.connection c.cursor)
  omega

end Cursor

end SensorSeries
