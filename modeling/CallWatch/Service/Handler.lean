import CallWatch.Catalogue
import CallWatch.Http.Percent
import CallWatch.Http.Route
import CallWatch.Service.Basic
import CallWatch.Service.LoadRequest

/-! The handlers of the routes.
Most requests are answered from the state as it is; those that start or stop load give an
order to load control, and the answer to the order is the answer to the request.
-/

namespace CallWatch.Service

/-- An order to load control. -/
inductive Order where
  | start (request : LoadRequest) (profile : LoadProfile)
  | stop
  deriving DecidableEq, Repr

namespace Order

def task : Order → Load.Task
  | .start _ profile => .startQueued profile
  | .stop => .stopQueued

def response (value : Bool) : Order → Http.Response
  | .start request _ => Http.respond LoadStatus.json (LoadStatus.started request value)
  | .stop => .json 200 (LoadStatus.stopped value).json

end Order

/-- What a handler does with a request. -/
inductive Handling where
  | answer (response : Http.Response)
  | order (order : Order)

/-- The response to a verb that a route does not take. -/
def wrongVerb (route : Http.Route) : Http.Response :=
  (Http.Response.bare 405).setField "allow" route.allowed

def productResponse (segment : String) : Http.Response :=
  match Http.segmentText? segment with
  | some id => Http.respond Product.json (Catalogue.lookup id)
  | none => .text 400 "Invalid URL: Invalid UTF-8 in `id`"

def eventsResponse : Http.Response :=
  ⟨200, [(Http.Response.contentTypeName, "text/event-stream"), ("cache-control", "no-cache")],
    .events⟩

def handleStart (r : Http.Request) : Handling :=
  match LoadRequest.read r.headers r.body with
  | .error refusal => .answer refusal.response
  | .ok request =>
    match request.profile with
    | .error e => .answer e.response
    | .ok profile => .order (.start request profile)

def handle (now : Time.Instant) (s : Service) (r : Http.Request) : Handling :=
  match Http.Route.ofPath? r.path with
  | none => .answer (.bare 404)
  | some route =>
    if !route.accepts r.verb then .answer (wrongVerb route)
    else
      match route with
      | .ping => .answer (.text 200 "pong")
      | .product segment => .answer (productResponse segment)
      | .loadStart => handleStart r
      | .loadStop => .order .stop
      | .loadStatus => .answer (.json 200 (LoadStatus.current s.loadRunning).json)
      | .metrics => .answer (.json 200 (s.snapshot now).json)
      | .metricsStream => .answer eventsResponse

end CallWatch.Service
