/-! How a call ended, in the canonical vocabulary of remote calls, and the classification of
the values that handlers return.
-/

namespace CallWatch

/-- The completion status of a call. -/
inductive Outcome where
  | ok
  | canceled
  | unknown
  | invalidArgument
  | deadlineExceeded
  | notFound
  | alreadyExists
  | permissionDenied
  | resourceExhausted
  | failedPrecondition
  | aborted
  | outOfRange
  | unimplemented
  | internal
  | unavailable
  | dataLoss
  | unauthenticated
  deriving DecidableEq, Repr, Inhabited

namespace Outcome

/-- Every outcome but `ok` counts as an error. -/
def isError (o : Outcome) : Bool :=
  o != .ok

/-- The canonical name, written as the status of access records. -/
def name : Outcome → String
  | .ok => "OK"
  | .canceled => "Canceled"
  | .unknown => "Unknown"
  | .invalidArgument => "InvalidArgument"
  | .deadlineExceeded => "DeadlineExceeded"
  | .notFound => "NotFound"
  | .alreadyExists => "AlreadyExists"
  | .permissionDenied => "PermissionDenied"
  | .resourceExhausted => "ResourceExhausted"
  | .failedPrecondition => "FailedPrecondition"
  | .aborted => "Aborted"
  | .outOfRange => "OutOfRange"
  | .unimplemented => "Unimplemented"
  | .internal => "Internal"
  | .unavailable => "Unavailable"
  | .dataLoss => "DataLoss"
  | .unauthenticated => "Unauthenticated"

def all : List Outcome :=
  [.ok, .canceled, .unknown, .invalidArgument, .deadlineExceeded, .notFound, .alreadyExists,
    .permissionDenied, .resourceExhausted, .failedPrecondition, .aborted, .outOfRange,
    .unimplemented, .internal, .unavailable, .dataLoss, .unauthenticated]

/-- The outcome of a call that answered with an HTTP status: some statuses have an outcome
of their own, the other client errors are failed preconditions, the other server errors are
internal, and all else is fine.
-/
def ofStatus (status : Nat) : Outcome :=
  if status = 400 then .invalidArgument
  else if status = 401 then .unauthenticated
  else if status = 403 then .permissionDenied
  else if status = 404 then .notFound
  else if status = 408 ∨ status = 504 then .deadlineExceeded
  else if status = 409 then .alreadyExists
  else if status = 412 then .failedPrecondition
  else if status = 429 then .resourceExhausted
  else if status = 499 then .canceled
  else if status = 501 then .unimplemented
  else if status = 503 then .unavailable
  else if 400 ≤ status ∧ status ≤ 499 then .failedPrecondition
  else if 500 ≤ status ∧ status ≤ 599 then .internal
  else .ok

end Outcome

/-- A value that a handler can return and that tells how its call ended. -/
class Classified (α : Type) where
  outcome : α → Outcome

export Classified (outcome)

instance : Classified Outcome := ⟨id⟩

/-- A value is fine and an error tells its own outcome. -/
instance {ε α : Type} [Classified ε] : Classified (Except ε α) where
  outcome
    | .ok _ => .ok
    | .error e => outcome e

end CallWatch
