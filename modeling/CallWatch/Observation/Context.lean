import CallWatch.Http.Headers

/-! The context of a call: the correlation id of its request and the authenticated caller.
-/

namespace CallWatch

/-- The ids that an access record shows. -/
structure CallContext where
  requestId : Option String
  userId : Option String
  deriving DecidableEq, Repr, Inhabited

namespace CallContext

def empty : CallContext := ⟨none, none⟩

/-- An empty id counts as absent. -/
def nonEmpty (id : String) : Option String :=
  if id = "" then none else some id

def withRequestId (c : CallContext) (id : String) : CallContext :=
  { c with requestId := nonEmpty id }

def withUserId (c : CallContext) (id : String) : CallContext :=
  { c with userId := nonEmpty id }

/-- The id in a header: the first field of the name, if its value is visible and not
empty.
-/
def headerId (headers : Http.Headers) (name : String) : Option String :=
  (headers.first? name).bind Http.visibleText? |>.bind nonEmpty

/-- The ids in the headers of a request. -/
def ofHeaders (headers : Http.Headers) : CallContext where
  requestId := headerId headers "x-request-id"
  userId := headerId headers "x-user-id"

end CallContext

end CallWatch
