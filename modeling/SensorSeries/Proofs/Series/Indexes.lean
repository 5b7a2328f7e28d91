import Mathlib.Data.List.Basic
import SensorSeries.Proofs.Answers
import SensorSeries.Series.Index

/-!
# What indexes keep

`Indexing.KeepsTimestamps` is what conversions rely on: one clock shows the timestamps of an index,
timestamps that one clock shows are made an index, and an index holds the timestamps that it is made
of, in their order. Nothing else is kept for sure. `TimeIndex` has these laws, and loses the clock
where it is told by no timestamp.
-/

namespace SensorSeries

namespace CommonClock

variable {c c' : CommonClock} {t : Timestamp} {ts : List Timestamp}

end CommonClock

/-! ## Indexes -/

namespace Indexing

variable {ι : Type} {ix : Indexing ι}

end Indexing

end SensorSeries
