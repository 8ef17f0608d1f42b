import CallWatch.Http.MediaType
import CallWatch.Http.Request
import CallWatch.Http.ServiceError
import CallWatch.Json.RecordReader
import CallWatch.Load.Profile

/-! The request to start a load run: how its body is read, within which bounds it is let in,
and what the answers to it say.
-/

namespace CallWatch.Service

/-- What a request to start asks for. -/
structure LoadRequest where
  workers : Nat := 10
  seconds : Nat := 30
  errorPct : Nat := 5
  deriving DecidableEq, Repr, Inhabited

namespace LoadRequest

/-- The members of the body in the order of declaration; other names are passed over. -/
def shape : Json.Shape where
  typeName := "LoadConfig"
  members :=
    [ ("concurrency", .natural "u32" (greatestWord 32)),
      ("duration_secs", .natural "u64" (greatestWord 64)),
      ("error_pct", .natural "u8" 255) ]
  refusesUnknown := false

/-- The request of some members, with defaults for the others. -/
def ofMembers (m : Json.Members) : LoadRequest :=
  let base : LoadRequest := {}
  { workers := m.natural "concurrency" base.workers
    seconds := m.natural "duration_secs" base.seconds
    errorPct := m.natural "error_pct" base.errorPct }

/-- Why a body is not read as a request to start. -/
inductive Refusal where
  /-- The headers do not announce JSON. -/
  | notJson
  /-- The body is longer than any that is read. -/
  | tooLong
  /-- The body is no such record. -/
  | unreadable (error : Json.ReadError)
  deriving DecidableEq

def mostBytes : Nat := 2097152

/-- Reads a request to start. What follows the record in the body is not looked at. -/
def read (headers : Http.Headers) (body : List UInt8) : Except Refusal LoadRequest :=
  if !headers.announceJson then .error .notJson
  else if mostBytes < body.length then .error .tooLong
  else
    match Json.readRecord shape (.start body) with
    | .ok (members, _) => .ok (ofMembers members)
    | .error e => .error (.unreadable e)

/-- The response to a body that is not read. Errors in what it says are told apart from
errors in its form.
-/
def Refusal.response : Refusal → Http.Response
  | .notJson => .text 415 "Expected request with `Content-Type: application/json`"
  | .tooLong => .text 413 "Failed to buffer the request body: length limit exceeded"
  | .unreadable e =>
    if e.cause.isData then
      .text 422
        ("Failed to deserialize the JSON body into the target type: " ++ e.placedMessage)
    else .text 400 ("Failed to parse the request body as JSON: " ++ e.placedMessage)

/-- The profile of a request within the bounds; of several broken bounds the first is
reported.
-/
def profile (q : LoadRequest) : Except Http.ServiceError LoadProfile :=
  if q.workers = 0 ∨ LoadProfile.mostWorkers < q.workers then
    .error (.badRequest
      ("concurrency must be between 1 and " ++ Text.decimal LoadProfile.mostWorkers))
  else if q.seconds = 0 ∨ LoadProfile.mostSeconds < q.seconds then
    .error (.badRequest
      ("duration_secs must be between 1 and " ++ Text.decimal LoadProfile.mostSeconds))
  else if LoadProfile.mostErrorPct < q.errorPct then
    .error (.badRequest "error_pct must be between 0 and 100")
  else .ok ⟨q.workers, Duration.ofSeconds q.seconds, q.errorPct⟩

end LoadRequest

/-- Whether load is running, with a message. -/
structure LoadStatus where
  running : Bool
  message : String
  deriving DecidableEq, Repr

namespace LoadStatus

def json (s : LoadStatus) : Json :=
  .object [("running", .bool s.running), ("message", .text s.message)]

/-- What a request to start returns once a run has been started or refused. -/
def started (q : LoadRequest) (accepted : Bool) : Except Http.ServiceError LoadStatus :=
  if accepted then
    .ok ⟨true,
      "Started: " ++ Text.decimal q.workers ++ " workers × " ++ Text.decimal q.seconds ++ "s, "
        ++ Text.decimal q.errorPct ++ "% errors"⟩
  else .error .alreadyRunning

/-- What a request to stop returns, given whether load was running. -/
def stopped (wasRunning : Bool) : LoadStatus :=
  ⟨false, if wasRunning then "Load generator stopped" else "No load generator is running"⟩

def current (running : Bool) : LoadStatus :=
  ⟨running, if running then "Load in progress" else "Idle"⟩

end LoadStatus

end CallWatch.Service
