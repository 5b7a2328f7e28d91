import SensorSeries.Exchange.Reading
import SensorSeries.Exchange.Writing
import SensorSeries.Main
import SensorSeries.Merge.Journal
import SensorSeries.Observation.Workspace
import SensorSeries.Parameter.Shelf
import SensorSeries.Rehearsal.Connection
import SensorSeries.Rehearsal.Source
import SensorSeries.Stream.InMemory
import SensorSeries.Proofs.Answers
import SensorSeries.Proofs.Time.Latest
import SensorSeries.Proofs.Merge.Contribution
import SensorSeries.Proofs.Merge.Eligibility
import SensorSeries.Proofs.Merge.Associativity
import SensorSeries.Proofs.Merge.Placing
import SensorSeries.Proofs.Merge.Grouping
import SensorSeries.Proofs.Merge.Batches
import SensorSeries.Proofs.Stream.Calls
import SensorSeries.Proofs.Stream.Steps
import SensorSeries.Proofs.Stream.Delivery
import SensorSeries.Proofs.Database.Server
import SensorSeries.Proofs.Database.Delivery
import SensorSeries.Proofs.Stream.Uses
import SensorSeries.Proofs.Database.Release
import SensorSeries.Proofs.Stream.Metadata
import SensorSeries.Proofs.Stream.Replies
import SensorSeries.Proofs.Stream.Retries
import SensorSeries.Proofs.Database.Retries
import SensorSeries.Proofs.Stream.InMemory
import SensorSeries.Proofs.Time.Hull
import SensorSeries.Proofs.Time.Validity
import SensorSeries.Proofs.Database.Times
import SensorSeries.Proofs.Datum.Codes
import SensorSeries.Proofs.Value.Keys
import SensorSeries.Proofs.Parameter.Order
import SensorSeries.Proofs.Order.Halving
import SensorSeries.Proofs.Parameter.Sets
import SensorSeries.Proofs.Parameter.Shelves
import SensorSeries.Proofs.Merge.Acceptance
import SensorSeries.Proofs.Merge.Folding
import SensorSeries.Proofs.Time.Bracketing
import SensorSeries.Proofs.Stream.LifeCycle
import SensorSeries.Proofs.Time.Regrouping
import SensorSeries.Proofs.Stream.Progress
import SensorSeries.Proofs.Stream.Fallback
import SensorSeries.Proofs.Stream.MissingValues
import SensorSeries.Proofs.Datum.NormalForm
import SensorSeries.Proofs.Parameter.Geometries
import SensorSeries.Proofs.Stream.Reprojection
import SensorSeries.Proofs.Stream.Interruption
import SensorSeries.Proofs.Parameter.Lookups
import SensorSeries.Proofs.Order.Spans
import SensorSeries.Proofs.Order.Stability
import SensorSeries.Proofs.Order.Merging
import SensorSeries.Proofs.Order.Sorting
import SensorSeries.Proofs.Profile.Order
import SensorSeries.Proofs.Series.Indexes
import SensorSeries.Proofs.Series.Columns
import SensorSeries.Proofs.Profile.Records
import SensorSeries.Proofs.Number.Numerals
import SensorSeries.Proofs.Stream.Crs
import SensorSeries.Proofs.Profile.Comparison
import SensorSeries.Proofs.Database.Rows
