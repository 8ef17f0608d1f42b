import CallWatch.Collector.Basic
import CallWatch.Json.Value
import CallWatch.Percentile
import CallWatch.Time.Timestamp

/-! Snapshots of a collector: one row per method in ascending order of the names, with the
error rate and the reported percentile derived from the tally.
-/

namespace CallWatch

/-- The figures of one method. -/
structure Row where
  method : String
  requests : Nat
  errors : Nat
  errorRate : Binary64
  p95 : Binary64

/-- The figures of all methods at one instant. -/
structure Snapshot where
  collectedAt : Time.Instant
  rows : List Row

def Tally.errorRate (t : Tally) : Binary64 :=
  if 0 < t.requests then (Binary64.ofNat t.errors).div (Binary64.ofNat t.requests)
  else Binary64.zero false

def Tally.row (t : Tally) (method : String) : Row where
  method := method
  requests := t.requests
  errors := t.errors
  errorRate := t.errorRate
  p95 := Percentile.p95 t.window.toList

def Collector.rows (c : Collector) : List Row :=
  c.tallies.entries.map fun (method, tally) => tally.row method

def Collector.snapshot (c : Collector) (now : Time.Instant) : Snapshot :=
  ⟨now, c.rows⟩

namespace Snapshot

def isEmpty (s : Snapshot) : Bool :=
  s.rows.isEmpty

def find? (s : Snapshot) (method : String) : Option Row :=
  s.rows.find? fun row => row.method = method

end Snapshot

def Row.json (r : Row) : Json :=
  .object
    [ ("method", .text r.method),
      ("requestCount", .natural r.requests),
      ("errorCount", .natural r.errors),
      ("errorRate", .number r.errorRate),
      ("p95LatencyMs", .number r.p95) ]

def Snapshot.json (s : Snapshot) : Json :=
  .object
    [ ("collectedAt", .text s.collectedAt.shortText),
      ("methods", .list (s.rows.map Row.json)) ]

end CallWatch
