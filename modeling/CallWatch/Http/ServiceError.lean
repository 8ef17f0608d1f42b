import CallWatch.Http.Response

/-! The errors that handlers answer with, how they are classified and how they are rendered.
-/

namespace CallWatch.Http

/-- Why a handler refuses. -/
inductive ServiceError where
  | notFound (message : String)
  | badRequest (message : String)
  | internal (message : String)
  | alreadyRunning
  deriving DecidableEq, Repr

instance : Classified ServiceError where
  outcome
    | .notFound _ => .notFound
    | .badRequest _ => .invalidArgument
    | .internal _ => .internal
    | .alreadyRunning => .failedPrecondition

namespace ServiceError

def status : ServiceError → Nat
  | .notFound _ => 404
  | .badRequest _ => 400
  | .internal _ => 500
  | .alreadyRunning => 409

def message : ServiceError → String
  | .notFound message => message
  | .badRequest message => message
  | .internal message => message
  | .alreadyRunning => "Load generator already running"

def response (e : ServiceError) : Response :=
  .json e.status (.object [("error", .text e.message), ("status", .natural e.status)])

end ServiceError

/-- The response of a handler's result: its value as JSON, or its error. -/
def respond {α : Type} (toJson : α → Json) : Except ServiceError α → Response
  | .ok value => .json 200 (toJson value)
  | .error e => e.response

end CallWatch.Http
