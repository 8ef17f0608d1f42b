import CallWatch.Collector.Snapshot

/-! Structured records, one JSON line each: an access record per observed call and a metrics
snapshot per reporting tick.
-/

namespace CallWatch

/-- The kinds of records. -/
inductive RecordKind where
  | access
  | snapshot
  deriving DecidableEq, Repr

def RecordKind.tag : RecordKind → String
  | .access => "access"
  | .snapshot => "metrics-snapshot"

/-- One observed call. -/
structure AccessRecord where
  stamp : String
  latencyMs : Binary64
  method : String
  requestId : String
  status : String
  userId : String

/-- The figures of all methods at one tick. -/
structure SnapshotRecord where
  stamp : String
  metrics : List Row

/-- A record of either kind. -/
inductive Record where
  | access (record : AccessRecord)
  | snapshot (record : SnapshotRecord)

def AccessRecord.json (r : AccessRecord) : Json :=
  .object
    [ ("at", .text r.stamp),
      ("type", .text RecordKind.access.tag),
      ("latencyMs", .number r.latencyMs),
      ("method", .text r.method),
      ("requestId", .text r.requestId),
      ("status", .text r.status),
      ("userId", .text r.userId) ]

def SnapshotRecord.json (r : SnapshotRecord) : Json :=
  .object
    [ ("at", .text r.stamp),
      ("metrics", .list (r.metrics.map Row.json)),
      ("type", .text RecordKind.snapshot.tag) ]

namespace Record

def json : Record → Json
  | .access r => r.json
  | .snapshot r => r.json

def kind : Record → RecordKind
  | .access _ => .access
  | .snapshot _ => .snapshot

def line (r : Record) : String :=
  r.json.line

/-- The record of a snapshot; a snapshot without any method has none. -/
def ofSnapshot? (s : Snapshot) : Option Record :=
  if s.isEmpty then none else some (.snapshot ⟨s.collectedAt.fullText, s.rows⟩)

end Record

end CallWatch
