import CallWatch.Service.Fields
import CallWatch.Service.Handler

/-! Exchanges of a request for a response.
A question for permission is answered before any route is looked at. Every other request is
handled by its route, and unless its path is left out of observation it is an observed call:
its completion counts it and writes its record, and the response tells the time that it
took. Where the completion breaks off there is no response.
-/

namespace CallWatch.Service

/-- A request whose order waits. -/
structure Pending where
  number : Nat
  request : Http.Request
  startedAt : Duration
  order : Order
  task : Load.Task

/-- How far an exchange has come. -/
inductive Exchange where
  | answered (response : Http.Response)
  | waiting (pending : Pending)
  /-- The completion of the call has broken off, and the client gets no response. -/
  | brokenOff

def observedCall (r : Http.Request) : Call :=
  ⟨r.methodName?, CallContext.ofHeaders r.headers⟩

def observes (r : Http.Request) : Bool :=
  !Http.Route.unobserved r.path

/-- Completes the call of a request, if it is observed. -/
def completeCall (wall : WallClock) (now startedAt : Duration) (r : Http.Request)
    (outcome : Outcome) (s : Service) : Service :=
  if observes r then
    s.withObservatory
      (s.observatory.complete (observedCall r) outcome (now - startedAt) (wall now))
  else s

/-- The call of a request is completed to the end, if it is observed. -/
def completes (r : Http.Request) (s : Service) : Bool :=
  !observes r || s.observatory.takes (observedCall r)

/-- The response of a handler on its way out. -/
def sent (elapsed : Duration) (r : Http.Request) (response : Http.Response)
    : Http.Response :=
  let response := withoutBody r.verb (withLength response)
  withExposure (if observes r then withTiming elapsed response else response)

def conclude (wall : WallClock) (now startedAt : Duration) (r : Http.Request)
    (response : Http.Response) (s : Service) : Exchange × Service :=
  (if s.completes r then .answered (sent (now - startedAt) r response) else .brokenOff,
    s.completeCall wall now startedAt r (outcome response))

/-- Moves the order of a request as far as it goes. -/
def proceed (wall : WallClock) (now : Duration) (p : Pending) (s : Service)
    : Exchange × Service :=
  match Load.Task.run p.number 4 p.task s.bench.control with
  | (.answer value, control) =>
    (s.withControl control).conclude wall now p.startedAt p.request (p.order.response value)
  | (.stage task, control) => (.waiting { p with task }, s.withControl control)

/-- The verb of questions for permission. -/
def permissionVerb : String := "OPTIONS"

def accept (wall : WallClock) (now : Duration) (r : Http.Request) (s : Service)
    : Exchange × Service :=
  if r.verb = permissionVerb then
    (.answered (permission (Http.Route.ofPath? r.path)), s)
  else
    match s.handle (wall now) r with
    | .answer response => s.conclude wall now now r response
    | .order order =>
      let number := s.nextOrder
      { s with nextOrder := number + 1 }.proceed wall now ⟨number, r, now, order, order.task⟩

/-- The order of a waiting request can go on. -/
def ready (p : Pending) (s : Service) : Bool :=
  (p.task.step? p.number s.bench.control).isSome

/-- Gives up a waiting request: its order is dropped where it waits, and its call ends as one
that was dropped.
-/
def abandon (wall : WallClock) (now : Duration) (p : Pending) (s : Service) : Service :=
  (s.withControl (p.task.drop s.bench.control)).completeCall wall now p.startedAt p.request
    (outcome (Ending.dropped : Ending Http.Response))

/-- Moves the clock until a waiting request can go on; an order waits at most for the calls
that are under way.
-/
def waitFor (surroundings : Load.Surroundings) (now : Duration) (p : Pending) (s : Service)
    : Duration × (Exchange × Service) :=
  let (later, s) := (timers surroundings).runUntil (ready p) (now + Load.longestCall) now s
  (later, s.proceed surroundings.wall later p)

end CallWatch.Service
