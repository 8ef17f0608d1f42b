import CallWatch.Http.Request
import CallWatch.Text.Pieces

/-! The routes of the service.
A path is matched segment by segment as it stands: nothing is decoded or folded, and a slash
at its end makes it another path.
-/

namespace CallWatch.Http

/-- A route; the product route carries the segment that names the product. -/
inductive Route where
  | ping
  | product (segment : String)
  | loadStart
  | loadStop
  | loadStatus
  | metrics
  | metricsStream
  deriving DecidableEq, Repr

namespace Route

/-- The pattern of a route, which names it in the figures. -/
def pattern : Route → String
  | .ping => "/api/ping"
  | .product _ => "/api/products/:id"
  | .loadStart => "/api/load/start"
  | .loadStop => "/api/load/stop"
  | .loadStatus => "/api/load/status"
  | .metrics => "/api/metrics"
  | .metricsStream => "/api/metrics/stream"

/-- The route is for changing something and takes only this verb; the others are for
reading.
-/
def posts : Route → Bool
  | .loadStart => true
  | .loadStop => true
  | _ => false

/-- The verbs that a route takes, as a response lists them. -/
def allowed (r : Route) : String :=
  if r.posts then "POST" else "GET,HEAD"

def accepts (r : Route) (verb : String) : Bool :=
  if r.posts then verb = "POST" else verb = "GET" || verb = "HEAD"

def segments (path : String) : List (List Char) :=
  Text.pieces '/' path.toList

def ofPath? (path : String) : Option Route :=
  match (segments path).map String.ofList with
  | ["", "api", "ping"] => some .ping
  | ["", "api", "products", segment] => if segment = "" then none else some (.product segment)
  | ["", "api", "load", "start"] => some .loadStart
  | ["", "api", "load", "stop"] => some .loadStop
  | ["", "api", "load", "status"] => some .loadStatus
  | ["", "api", "metrics"] => some .metrics
  | ["", "api", "metrics", "stream"] => some .metricsStream
  | _ => none

/-- Requests whose path starts like this are not observed. -/
def unobservedStart : List Char := "/api/metrics".toList

/-- A path is left out of the figures and of the log. -/
def unobserved (path : String) : Bool :=
  unobservedStart.isPrefixOf path.toList

end Route

/-- The name under which a request is observed, if it has a route. -/
def Request.methodName? (r : Request) : Option String :=
  (Route.ofPath? r.path).map fun route => r.verb ++ " " ++ route.pattern

end CallWatch.Http
