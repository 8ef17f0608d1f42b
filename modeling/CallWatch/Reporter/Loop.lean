import CallWatch.Observation.Flight
import CallWatch.Reporter.Schedule
import CallWatch.Time.Timers

/-! The reporting loop.
At its top the loop looks at the stop signal; then it waits for whichever comes first, a
change of the signal or the next tick. A step of the loop is one of these moves, and where
both are possible either may be taken.
-/

namespace CallWatch.Reporter

/-- The stop signal as the loop sees it: its latest value, whether it has been set since the
loop last looked, and whether anyone still holds the other end.
-/
structure Signal where
  value : Bool
  fresh : Bool
  held : Bool
  deriving DecidableEq, Repr

/-- Where the loop stands. -/
inductive Place where
  | top
  | waiting
  | stopped
  deriving DecidableEq, Repr

/-- The two things that a waiting loop can take up. -/
inductive Branch where
  | signal
  | tick
  deriving DecidableEq, Repr

/-- The loop with its signal and its schedule. -/
structure Loop where
  place : Place
  signal : Signal
  schedule : Schedule
  deriving DecidableEq

namespace Loop

def start (now period : Duration) (value : Bool) : Loop :=
  ⟨.top, ⟨value, false, true⟩, .startingAt now period⟩

/-- The loop as a task of its own. The task breaks off before the loop looks at anything if the
clock cannot tell the deadline of the first tick.
-/
def spawn (now period : Duration) (value : Bool) : Loop :=
  let loop := start now period value
  if loop.schedule.due.IsInstant then loop else { loop with place := .stopped }

/-- A task that breaks off leaves its schedule and its signal as they are. -/
@[simp] theorem schedule_spawn (now period : Duration) (value : Bool)
    : (spawn now period value).schedule = .startingAt now period := by
  by_cases told : (start now period value).schedule.due.IsInstant
  · rw [spawn, if_pos told, start]
  · rw [spawn, if_neg told, start]

@[simp] theorem signal_spawn (now period : Duration) (value : Bool)
    : (spawn now period value).signal = ⟨value, false, true⟩ := by
  by_cases told : (start now period value).schedule.due.IsInstant
  · rw [spawn, if_pos told, start]
  · rw [spawn, if_neg told, start]

@[simp] theorem place_spawn (now period : Duration) (value : Bool)
    : (spawn now period value).place
      = if (Schedule.startingAt now period).due.IsInstant then .top else .stopped := by
  by_cases told : (Schedule.startingAt now period).due.IsInstant
  · rw [spawn, start, if_pos told, if_pos told]
  · rw [spawn, start, if_neg told, if_neg told]

def running (l : Loop) : Bool :=
  l.place != .stopped

/-- One move of the loop, if it is possible; the flag tells whether a tick fired. -/
def step? (now : Duration) (branch : Branch) (l : Loop) : Option (Bool × Loop) :=
  let seen := { l.signal with fresh := false }
  match l.place with
  | .stopped => none
  | .top => some (false, ⟨if l.signal.value then .stopped else .waiting, seen, l.schedule⟩)
  | .waiting =>
    match branch with
    | .signal =>
      if l.signal.fresh then some (false, ⟨.top, seen, l.schedule⟩)
      else if l.signal.held then none
      else some (false, ⟨.stopped, l.signal, l.schedule⟩)
    | .tick =>
      if l.schedule.due ≤ now then some (true, ⟨.top, l.signal, l.schedule.fire now⟩)
      else none

/-- The moves that are left at an instant, counted so that every move lowers the count. -/
def movesLeft (now : Duration) (l : Loop) : Nat :=
  5 * (now.nanos + 1 - l.schedule.due.nanos) + (if l.signal.fresh then 3 else 0)
    + match l.place with
      | .top => 2
      | .waiting => 1
      | .stopped => 0

/-- Every move lowers the count of moves that are left. -/
theorem movesLeft_step {now : Duration} {branch : Branch} {l next : Loop} {fired : Bool}
    (h : l.step? now branch = some (fired, next))
    : next.movesLeft now < l.movesLeft now := by
  obtain ⟨place, signal, schedule⟩ := l
  cases place with
  | stopped => simp [step?] at h
  | top =>
    simp only [step?, Option.some.injEq, Prod.mk.injEq] at h
    obtain ⟨-, rfl⟩ := h
    obtain ⟨value, fresh, held⟩ := signal
    cases value <;> cases fresh <;> simp [movesLeft]
    omega
  | waiting =>
    cases branch with
    | signal =>
      simp only [step?] at h
      split at h
      · next fresh =>
        simp only [Option.some.injEq, Prod.mk.injEq] at h
        obtain ⟨-, rfl⟩ := h
        simp [movesLeft, fresh]
      · split at h
        · simp at h
        · simp only [Option.some.injEq, Prod.mk.injEq] at h
          obtain ⟨-, rfl⟩ := h
          simp [movesLeft]
    | tick =>
      simp only [step?] at h
      split at h
      · next due =>
        simp only [Option.some.injEq, Prod.mk.injEq] at h
        obtain ⟨-, rfl⟩ := h
        have later := Schedule.due_lt_fire due
        have : schedule.due.nanos ≤ now.nanos := due
        simp only [movesLeft]
        omega
      · simp at h

/-- Sets the signal, if the loop has not returned; tells whether it could. -/
def send (value : Bool) (l : Loop) : Bool × Loop :=
  if l.running then (true, { l with signal := { l.signal with value, fresh := true } })
  else (false, l)

def release (l : Loop) : Loop :=
  { l with signal := { l.signal with held := false } }

def deadline? (l : Loop) : Option Duration :=
  if l.running then some l.schedule.due else none

end Loop

/-- One report: the record of a snapshot taken now, if there is a collector and it has any
method.
-/
def report (wall : WallClock) (now : Duration) (o : Observatory) : Bool × Observatory :=
  match o.collector with
  | some c => o.emit (c.snapshot (wall now))
  | none => (false, o)

/-- Moves the loop as far as it goes at an instant, looking at the signal first, and reports
at every tick.
-/
def settle (wall : WallClock) (now : Duration) (l : Loop) (o : Observatory)
    : Loop × Observatory :=
  match _signal : l.step? now .signal with
  | some (_, next) => settle wall now next o
  | none =>
    match _tick : l.step? now .tick with
    | some (_, next) => settle wall now next (report wall now o).2
    | none => (l, o)
termination_by l.movesLeft now
decreasing_by
  · exact Loop.movesLeft_step _signal
  · exact Loop.movesLeft_step _tick

/-- A reporter with the observatory that it reads and writes. -/
structure Reporting where
  loop : Loop
  observatory : Observatory

namespace Reporting

/-- A reporter that starts now. Without a collector it returns at once, and it breaks off if the
clock cannot tell when its first report is due.
-/
def start (now period : Duration) (value : Bool) (o : Observatory) : Reporting :=
  ⟨if o.collector.isSome then .spawn now period value
    else { Loop.start now period value with place := .stopped }, o⟩

def settle (wall : WallClock) (now : Duration) (r : Reporting) : Reporting :=
  let (loop, observatory) := Reporter.settle wall now r.loop r.observatory
  ⟨loop, observatory⟩

def timers (wall : WallClock) : Time.Timers Reporting where
  deadline? r := r.loop.deadline?
  settle := settle wall

end Reporting

end CallWatch.Reporter
