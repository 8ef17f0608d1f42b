import CallWatch.Json.Value
import CallWatch.Outcome

/-! Responses: a status, header fields and a body.
-/

namespace CallWatch.Http

/-- A status code. -/
structure Status where
  code : Nat
  deriving DecidableEq, Repr

instance : Classified Status := ⟨fun s => .ofStatus s.code⟩

/-- A body: a whole text, or a stream of snapshot events that does not end. -/
inductive Body where
  | whole (text : String)
  | events
  deriving DecidableEq, Repr, Inhabited

def Body.text : Body → String
  | .whole text => text
  | .events => ""

/-- A response. The names of its fields are in lower case. -/
structure Response where
  status : Nat
  fields : List (String × String)
  body : Body
  deriving DecidableEq, Repr, Inhabited

instance : Classified Response := ⟨fun r => .ofStatus r.status⟩

namespace Response

/-- The name of the field that tells the type of a body. -/
def contentTypeName : String := "content-type"

def bare (status : Nat) : Response :=
  ⟨status, [], .whole ""⟩

def text (status : Nat) (body : String) : Response :=
  ⟨status, [(contentTypeName, "text/plain; charset=utf-8")], .whole body⟩

def json (status : Nat) (value : Json) : Response :=
  ⟨status, [(contentTypeName, "application/json")], .whole value.line⟩

def field? (r : Response) (name : String) : Option String :=
  r.fields.lookup name

/-- Sets a field; a field of that name that is there already is replaced. -/
def setField (r : Response) (name value : String) : Response :=
  { r with fields := r.fields.filter (fun field => field.1 != name) ++ [(name, value)] }

end Response

end CallWatch.Http
