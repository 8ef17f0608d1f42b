import CallWatch.Observation.Context
import CallWatch.Observation.Record

/-! Observation of calls.
A call that has begun ends in one of three ways, and its completion counts it in the
collector, if there is one, and then writes one access record to the journal. Where counting
breaks off, so does the completion, and neither is done.
-/

namespace CallWatch

/-- A call: its method, if it has one, and its context. -/
structure Call where
  method : Option String
  context : CallContext

/-- How a call that has begun ends: its handler returns a value, or a panic unwinds through
it, or it is dropped before its handler is done.
-/
inductive Ending (α : Type) where
  | returned (value : α)
  | panicked
  | dropped
  deriving DecidableEq

/-- A panic is an internal error and a dropped call is canceled. -/
instance {α : Type} [Classified α] : Classified (Ending α) where
  outcome
    | .returned value => outcome value
    | .panicked => .internal
    | .dropped => .canceled

/-- The name under which a call is counted and logged. -/
def Call.name (c : Call) : String :=
  normalizeMethod (c.method.getD "")

def Call.record (c : Call) (outcome : Outcome) (elapsed : Duration) (now : Time.Instant)
    : AccessRecord where
  stamp := now.fullText
  latencyMs := elapsed.latencyMs
  method := c.name
  requestId := c.context.requestId.getD ""
  status := outcome.name
  userId := c.context.userId.getD ""

/-- Where observed calls go: a collector, if there is one, and the journal of records. -/
structure Observatory where
  collector : Option Collector
  journal : Array Record
  deriving Inhabited

namespace Observatory

/-- Whether the completion of a call gets to its end: the collector, if there is one, has to take
the call.
-/
def takes (o : Observatory) (call : Call) : Bool :=
  o.collector.all fun c => c.takes call.name

/-- The first half of a completion: the call is counted, unless that breaks off. -/
def count? (o : Observatory) (call : Call) (outcome : Outcome) (elapsed : Duration)
    : Option Observatory :=
  match o.collector with
  | some c =>
    (c.record? call.name outcome elapsed).map fun c => { o with collector := some c }
  | none => some o

/-- What the first half of a completion leaves. -/
def count (o : Observatory) (call : Call) (outcome : Outcome) (elapsed : Duration)
    : Observatory :=
  (o.count? call outcome elapsed).getD o

/-- The second half of a completion: the access record is written. -/
def log (o : Observatory) (call : Call) (outcome : Outcome) (elapsed : Duration)
    (now : Time.Instant) : Observatory :=
  { o with journal := o.journal.push (.access (call.record outcome elapsed now)) }

/-- A completion, unless it breaks off. -/
def complete? (o : Observatory) (call : Call) (outcome : Outcome) (elapsed : Duration)
    (now : Time.Instant) : Option Observatory :=
  (o.count? call outcome elapsed).map fun o => o.log call outcome elapsed now

/-- What a completion leaves. -/
def complete (o : Observatory) (call : Call) (outcome : Outcome) (elapsed : Duration)
    (now : Time.Instant) : Observatory :=
  (o.complete? call outcome elapsed now).getD o

/-- Writes the record of a snapshot, if it has one, and tells whether it did. -/
def emit (o : Observatory) (s : Snapshot) : Bool × Observatory :=
  match Record.ofSnapshot? s with
  | some record => (true, { o with journal := o.journal.push record })
  | none => (false, o)

def lines (o : Observatory) : List String :=
  o.journal.toList.map Record.line

end Observatory

end CallWatch
