import CallWatch.Observation.Observatory

/-! Observed calls that overlap.
A call that starts gets a guard, and its completion begins when its handler returns or when
the guard is dropped. A completion counts the call and then logs it, and the steps of
different calls may come in any order. A future that is dropped before its first poll leaves
no trace, because its guard is made by that poll. Where counting breaks off the call ends in a
panic, whatever its handler did, and if it was a panic that completed it the process ends.
-/

namespace CallWatch

/-- The wall clock: the instant that it shows at each instant of the steady clock. -/
abbrev WallClock := Duration → Time.Instant

-----------------------------------------------------------------------------------------
-- Guards
-----------------------------------------------------------------------------------------

/-- What a completion counts and logs. -/
structure Completion where
  call : Call
  outcome : Outcome
  elapsed : Duration

/-- The guard of a call that has started, and whether its completion is in other hands. -/
structure Guard where
  call : Call
  startedAt : Duration
  done : Bool

namespace Guard

def start (call : Call) (now : Duration) : Guard :=
  ⟨call, now, false⟩

/-- The completion of a call that ends at an instant. -/
def completion (outcome : Outcome) (now : Duration) (g : Guard) : Completion :=
  ⟨g.call, outcome, now - g.startedAt⟩

/-- The handler has returned: its outcome is completed, and the guard has nothing left to
do.
-/
def finish (outcome : Outcome) (now : Duration) (g : Guard) : Completion × Guard :=
  (g.completion outcome now, { g with done := true })

/-- The completion that is begun by dropping a guard, with or without a panic unwinding. -/
def release (unwinding : Bool) (now : Duration) (g : Guard) : Option Completion :=
  if g.done then none
  else some (g.completion (if unwinding then .internal else .canceled) now)

end Guard

/-- What completions do to an observatory, one half at a time. -/
inductive Effect where
  | count (c : Completion)
  | log (c : Completion) (now : Time.Instant)

def Effect.apply (o : Observatory) : Effect → Observatory
  | .count c => o.count c.call c.outcome c.elapsed
  | .log c now => o.log c.call c.outcome c.elapsed now

-----------------------------------------------------------------------------------------
-- One call
-----------------------------------------------------------------------------------------

/-- How a handler is observed: within a future, which runs when it is polled and can be
dropped, or directly.
-/
inductive ObservationMode where
  | future
  | direct
  deriving DecidableEq

/-- How far an observed call has come. -/
inductive Stage (α : Type) where
  /-- Its future has been made and not polled. -/
  | unpolled
  /-- Its handler is at work. -/
  | running (guard : Guard)
  /-- It ends in some way and is about to be counted; its guard may still have to go. -/
  | counting (c : Completion) (guard : Option Guard) (ending : Ending α)
  /-- It has been counted and is about to be logged. -/
  | logging (c : Completion) (guard : Option Guard) (ending : Ending α)
  /-- It has ended. -/
  | ended (ending : Ending α)
  /-- Its handler ended in some way, and counting it broke off. -/
  | broken (ending : Ending α)
  /-- Its future was dropped before the first poll. -/
  | discarded

/-- What the caller of a call that is over gets: what ended it, or the panic of its completion. -/
def Stage.result? {α : Type} : Stage α → Option (Ending α)
  | .ended ending => some ending
  | .broken _ => some .panicked
  | .discarded => some .dropped
  | _ => none

/-- A panic in the completion that another panic has begun ends the process. -/
def Stage.aborts {α : Type} : Stage α → Bool
  | .broken .panicked => true
  | _ => false

/-- A call with the way in which it is observed and how far it has come. -/
structure ObservedCall (α : Type) where
  mode : ObservationMode
  call : Call
  stage : Stage α

/-- What happens to one call. -/
inductive CallStep (α : Type) where
  | poll
  | finish (value : α)
  | panic
  | drop (unwinding : Bool)
  | count
  | log

/-- The stage of a call whose guard is dropped. -/
def Stage.release {α : Type} (unwinding : Bool) (now : Duration) (ending : Ending α)
    (guard : Guard) : Stage α :=
  match guard.release unwinding now with
  | some c => .counting c none ending
  | none => .ended ending

namespace ObservedCall

variable {α : Type} [Classified α]

/-- A call that is about to be observed. Without a future its handler starts at once. -/
def start (mode : ObservationMode) (call : Call) (now : Duration) : ObservedCall α :=
  match mode with
  | .future => ⟨.future, call, .unpolled⟩
  | .direct => ⟨.direct, call, .running (.start call now)⟩

/-- One step of a call at an instant, with its effect, if it has one; `takes` tells which calls
are counted. A step that the stage of the call does not allow does nothing. The last thing that
a returning call does is to drop its guard, and so does the panic of one that is not counted.
-/
def step (takes : Call → Bool) (wall : WallClock) (now : Duration) (c : ObservedCall α)
    : CallStep α → ObservedCall α × Option Effect
  | .poll =>
    match c.stage with
    | .unpolled => ({ c with stage := .running (.start c.call now) }, none)
    | _ => (c, none)
  | .finish value =>
    match c.stage with
    | .running guard =>
      let (completion, guard) := guard.finish (outcome value) now
      ({ c with stage := .counting completion (some guard) (.returned value) }, none)
    | _ => (c, none)
  | .panic =>
    match c.stage with
    | .running guard => ({ c with stage := .release true now .panicked guard }, none)
    | _ => (c, none)
  | .drop unwinding =>
    match c.mode, c.stage with
    | .future, .unpolled => ({ c with stage := .discarded }, none)
    | .future, .running guard =>
      let ending := if unwinding then .panicked else .dropped
      ({ c with stage := .release unwinding now ending guard }, none)
    | _, _ => (c, none)
  | .count =>
    match c.stage with
    | .counting completion guard ending =>
      if takes completion.call then
        ({ c with stage := .logging completion guard ending }, some (.count completion))
      else
        let stage :=
          match guard.bind fun guard => guard.release true now with
          | some completion => .counting completion none .panicked
          | none => .broken ending
        ({ c with stage }, none)
    | _ => (c, none)
  | .log =>
    match c.stage with
    | .logging completion guard ending =>
      let stage :=
        match guard with
        | some guard => .release false now ending guard
        | none => .ended ending
      ({ c with stage }, some (.log completion (wall now)))
    | _ => (c, none)

end ObservedCall

-----------------------------------------------------------------------------------------
-- All calls
-----------------------------------------------------------------------------------------

/-- What happens to observed calls: one is about to be observed and gets the next number, or
the one of a number takes a step.
-/
inductive CallEvent (α : Type) where
  | start (mode : ObservationMode) (call : Call)
  | step (id : Nat) (step : CallStep α)

/-- An observatory with the calls that have been observed. -/
structure Airspace (α : Type) where
  observatory : Observatory
  calls : List (ObservedCall α)

namespace Airspace

variable {α : Type} [Classified α]

def quiet (o : Observatory) : Airspace α := ⟨o, []⟩

/-- The process has ended, and nothing happens any more. -/
def halted (s : Airspace α) : Bool :=
  s.calls.any fun c => c.stage.aborts

/-- The calls after an event, and the effect of the event with the number of its call. -/
def turn (wall : WallClock) (now : Duration) (s : Airspace α) (event : CallEvent α)
    : List (ObservedCall α) × Option (Nat × Effect) :=
  if s.halted then (s.calls, none)
  else
    match event with
    | .start mode call => (s.calls ++ [.start mode call now], none)
    | .step id step =>
      match s.calls[id]? with
      | some c =>
        let (c, effect?) := c.step s.observatory.takes wall now step
        (s.calls.set id c, effect?.map (id, ·))
      | none => (s.calls, none)

def step (wall : WallClock) (now : Duration) (s : Airspace α) (event : CallEvent α)
    : Airspace α :=
  let (calls, effect?) := s.turn wall now event
  ⟨effect?.elim s.observatory fun entry => entry.2.apply s.observatory, calls⟩

def run (wall : WallClock) (s : Airspace α) (history : List (Duration × CallEvent α))
    : Airspace α :=
  history.foldl (fun s (now, event) => s.step wall now event) s

end Airspace

-----------------------------------------------------------------------------------------
-- Calls with a timetable
-----------------------------------------------------------------------------------------

/-- A call whose handler waits and then ends in its own way, unless the call is dropped
before.
-/
structure TimedCall (α : Type) where
  call : Call
  delay : Duration
  finish : Ending α
  dropAfter : Option Duration

namespace TimedCall

variable {α : Type}

/-- When a call ends, counted from its start, and how. A handler that is done at the instant
of the drop has finished.
-/
def ending (t : TimedCall α) : Duration × Ending α :=
  match t.dropAfter with
  | none => (t.delay, t.finish)
  | some limit => if limit < t.delay then (limit, .dropped) else (t.delay, t.finish)

/-- The step with which a call ends in some way. -/
def lastStep : Ending α → CallStep α
  | .returned value => .finish value
  | .panicked => .panic
  | .dropped => .drop false

/-- The history of the first calls that are observed, which start together at an instant: in
their order each is polled for the first time, and each is completed when it ends.
-/
def history (now : Duration) (calls : List (TimedCall α))
    : List (Duration × CallEvent α) :=
  let numbered := calls.zipIdx
  let starts := numbered.flatMap fun (t, id) =>
    [(now, CallEvent.start .future t.call), (now, CallEvent.step id .poll)]
  let ends := numbered.map fun (t, id) => (now + t.ending.1, id, t.ending.2)
  let ordered := ends.mergeSort fun a b => a.1 ≤ b.1
  starts ++ ordered.flatMap fun (instant, id, ending) =>
    [lastStep ending, .count, .log].map fun step => (instant, CallEvent.step id step)

end TimedCall

end CallWatch
