import CallWatch.Load.Script
import CallWatch.Observation.Flight

/-! A synthetic worker.
A worker makes one call after another. Before each it looks at the running flag and at the
deadline, and once it has seen the flag down or the deadline reached it makes no more.
-/

namespace CallWatch.Load

/-- What a worker does. -/
inductive Activity where
  /-- It is about to look at the flag and the deadline. -/
  | looking
  /-- It is inside a call. -/
  | calling (call : SyntheticCall) (startedAt : Duration)
  /-- It makes no more calls. -/
  | done
  deriving DecidableEq, Repr

/-- A worker with its stream and the number of calls that it has begun. -/
structure Worker where
  id : Nat
  stream : Random.Stream
  begun : Nat
  activity : Activity

/-- The terms of a run that its workers keep. -/
structure Terms where
  deadline : Duration
  errorPct : Nat

/-- Where the streams of the workers come from: the stream of each worker. -/
abbrev Seeding := Nat → Random.Stream

namespace Seeding

/-- Every worker has a stream of its own. -/
def own : Seeding := fun id => .ofSeed (1000 + id)

end Seeding

/-- Where the request ids of synthetic calls come from: the id of a call of a worker. -/
abbrev RequestIds := Nat → Nat → String

/-- What surrounds the process: its wall clock and its source of request ids. -/
structure Surroundings where
  wall : WallClock
  requestIds : RequestIds
  deriving Inhabited

namespace Worker

/-- A worker at its start. -/
def start (seeding : Seeding) (id : Nat) : Worker :=
  ⟨id, seeding id, 0, .looking⟩

/-- The worker may still make calls or is inside one. -/
def live (w : Worker) : Bool :=
  match w.activity with
  | .done => false
  | _ => true

/-- The instant at which the call of a worker is over. -/
def wake? (w : Worker) : Option Duration :=
  match w.activity with
  | .calling call startedAt => some (startedAt + call.latency).wake
  | _ => none

/-- A worker with a call to complete is live. -/
theorem live_of_wake? {w : Worker} {wake : Duration} (h : w.wake? = some wake)
    : w.live = true := by
  simp only [wake?] at h
  simp only [live]
  split at h
  · next calling => rw [calling]
  · cases h

/-- Looks at the flag and the deadline, and begins a call or ends. -/
def look (terms : Terms) (flag : Bool) (now : Duration) (w : Worker) : Worker :=
  match w.activity with
  | .looking =>
    if flag && now < terms.deadline then
      let drawn := draw terms.errorPct w.stream
      { w with stream := drawn.2, begun := w.begun + 1, activity := .calling drawn.1 now }
    else { w with activity := .done }
  | _ => w

def observed (surroundings : Surroundings) (w : Worker) (call : SyntheticCall) : Call where
  method := some call.method
  context :=
    (CallContext.empty.withRequestId (surroundings.requestIds w.id w.begun)).withUserId
      call.userId

/-- Completes the call of a worker, if it is over, with the outcome that was drawn for it. A
worker whose call cannot be taken breaks off with it, and makes no more calls.
-/
def land (surroundings : Surroundings) (now : Duration) (w : Worker) (o : Observatory)
    : Worker × Observatory :=
  match w.activity with
  | .calling call startedAt =>
    if (startedAt + call.latency).wake ≤ now then
      let observed := w.observed surroundings call
      ({ w with activity := if o.takes observed then .looking else .done },
        o.complete observed call.outcome (now - startedAt) (surroundings.wall now))
    else (w, o)
  | _ => (w, o)

/-- All that a worker does at an instant: it completes a call that is over, and looks on. -/
def advance (surroundings : Surroundings) (terms : Terms) (flag : Bool) (now : Duration)
    (w : Worker) (o : Observatory) : Worker × Observatory :=
  let (w, o) := w.land surroundings now o
  (w.look terms flag now, o)

end Worker

end CallWatch.Load
