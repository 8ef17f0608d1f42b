import CallWatch.Main
import CallWatch.Observation.Flight
import CallWatch.Percentile
import CallWatch.Service.Events
import CallWatch.Service.Exchange
import CallWatch.Proofs.Text.ByteOrder
import CallWatch.Proofs.Collector.History
import CallWatch.Load.Floor
import CallWatch.Proofs.Load.Standing
import CallWatch.Proofs.Load.Invariant
import CallWatch.Proofs.Load.Ownership
import CallWatch.Proofs.Load.Abandonment
import CallWatch.Json.Form
import CallWatch.Proofs.Json.Number
import CallWatch.Proofs.Json.Roundtrip
import CallWatch.Proofs.Collector.Name
import CallWatch.Proofs.Observation.Completion
import CallWatch.Proofs.Observation.Overlap
import CallWatch.Proofs.Observation.Agreement
import CallWatch.Proofs.Load.Driven
import CallWatch.Proofs.Reporter.Shift
import CallWatch.Proofs.Reporter.Rhythm
import CallWatch.Proofs.Reporter.TickLaw
import CallWatch.Proofs.Reporter.Stopping
import CallWatch.Proofs.Json.Visible
import CallWatch.Proofs.Observation.Decoding
import CallWatch.Proofs.Load.Scripted
import CallWatch.Proofs.Http.Observed
import CallWatch.Proofs.Service.Traffic
import CallWatch.Proofs.Observation.Entries
import CallWatch.Proofs.Service.Growth
import CallWatch.Proofs.Service.Closings
import CallWatch.Proofs.Service.Recording
import CallWatch.Proofs.Observation.HeaderIds
import CallWatch.Proofs.Service.Relay
import CallWatch.Proofs.Service.Classification
import CallWatch.Proofs.Collector.Sections
import CallWatch.Proofs.Collector.Schedules
import CallWatch.Proofs.Text.Numeral
import CallWatch.Proofs.Text.Decoding
import CallWatch.Proofs.Config.Override
import CallWatch.Proofs.Startup.Preparation
import CallWatch.Proofs.Json.Bytes
import CallWatch.Proofs.Json.WholeNumber
import CallWatch.Proofs.Json.Scalars
import CallWatch.Proofs.Json.Records
import CallWatch.Proofs.Config.Decoding
import CallWatch.Proofs.Load.Books
import CallWatch.Proofs.Load.Clock
import CallWatch.Proofs.Load.Conservation
import CallWatch.Proofs.Binary64.Rounding
import CallWatch.Proofs.Collector.Percentile
import CallWatch.Proofs.Collector.Figures
import CallWatch.Proofs.Load.Profiles
import CallWatch.Proofs.Load.Likeness
import CallWatch.Proofs.Service.Control
import CallWatch.Proofs.Service.Admission
import CallWatch.Proofs.Service.Likeness
import CallWatch.Proofs.Service.Driving
import CallWatch.Proofs.Service.Starts
import CallWatch.Proofs.Time.Reader
import CallWatch.Proofs.Binary64.Order
import CallWatch.Proofs.Collector.Conversion
import CallWatch.Proofs.Collector.Quantile
import CallWatch.Proofs.Text.Padded
import CallWatch.Proofs.Time.Calendar
import CallWatch.Proofs.Time.Stamp
import CallWatch.Proofs.Service.Snapshots
import CallWatch.Proofs.Collector.CanonicalName
import CallWatch.Proofs.Catalogue.Lookup
import CallWatch.Proofs.Json.Ranges
import CallWatch.Proofs.Startup.Loading
import CallWatch.Proofs.Service.Silence
import CallWatch.Proofs.Startup.Deadlines
