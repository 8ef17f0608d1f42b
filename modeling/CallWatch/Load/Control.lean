import CallWatch.Load.Run

/-! Who may start and stop load runs.
A running flag, a slot for the handle of the current run and a lock around the slot are
shared by the requests to start and to stop. A request is a task that moves in small steps:
between two steps any other task, worker or run may move.
-/

namespace CallWatch.Load

/-- The shared state: the flag, the run whose handle is in the slot, the task that holds the
lock, the runs that have not ended, and the number of the next run. A run that has broken off is
among those that have not ended, until whoever stops it takes note.
-/
structure Control where
  flag : Bool
  slot : Option Nat
  lock : Option Nat
  runs : List Run
  nextRun : Nat

namespace Control

def idle : Control := ⟨false, none, none, [], 0⟩

instance : Inhabited Control := ⟨idle⟩

/-- Whoever waits for a run need wait no longer: it has ended, or it has broken off. -/
def ended (c : Control) (number : Nat) : Bool :=
  c.runs.all fun r => r.number ≠ number || r.brokenOff

/-- No run has anything left to do. -/
def atRest (c : Control) : Bool :=
  c.runs.all Run.brokenOff

def run? (number : Nat) (c : Control) : Option Run :=
  c.runs.find? fun r => r.number = number

def onRun (number : Nat) (f : Run → Run) (c : Control) : Control :=
  { c with runs := c.runs.map fun r => if r.number = number then f r else r }

/-- The last thing that a run does to the flag: it lowers it, whoever raised it. -/
def lower (number : Nat) (c : Control) : Control :=
  { c.onRun number fun r => { r with lowered := true } with flag := false }

/-- A run is over, and whoever holds its handle can tell. -/
def retire (number : Nat) (c : Control) : Control :=
  { c with runs := c.runs.filter fun r => r.number ≠ number }

def finish (number : Nat) (c : Control) : Control :=
  (c.lower number).retire number

/-- Lets go of the handle of a run. If the run has broken off, nothing is left of it. -/
def reap (number : Nat) (c : Control) : Control :=
  { c with runs := c.runs.filter fun r => r.number ≠ number || !r.brokenOff }

def finishExhausted (c : Control) : Control :=
  (c.runs.filter Run.exhausted).foldl (fun c r => c.finish r.number) c

def launchWith (seeding : Seeding) (now : Duration) (c : Control) : Control :=
  { c with runs := c.runs.map (Run.launchWith seeding now) }

def launch (now : Duration) (c : Control) : Control :=
  c.launchWith .own now

@[simp] theorem runs_launch (now : Duration) (c : Control)
    : (c.launch now).runs = c.runs.map (Run.launch now) := rfl

def unlock (c : Control) : Control :=
  { c with lock := none }

end Control

/-- A request to start or to stop, between two of its steps. -/
inductive Task where
  /-- A start waits for the lock. -/
  | startQueued (profile : LoadProfile)
  /-- A start holds the lock and has not touched the flag. -/
  | startLocked (profile : LoadProfile)
  /-- A start has raised the flag and not begun a run. -/
  | startRaised (profile : LoadProfile)
  /-- A start has begun a run and has not filled the slot. -/
  | startSpawned (run : Nat)
  /-- A stop waits for the lock. -/
  | stopQueued
  /-- A stop holds the lock and has not touched the flag. -/
  | stopLocked
  /-- A stop has lowered the flag, which was up or not, and has not emptied the slot. -/
  | stopLowered (wasUp : Bool)
  /-- A stop has emptied the slot and waits for the run to end. -/
  | stopJoining (wasUp : Bool) (run : Nat)
  deriving DecidableEq, Repr

/-- What a step of a task leads to: its next stage, or its answer. -/
inductive Progress where
  | stage (task : Task)
  | answer (value : Bool)
  deriving DecidableEq, Repr

namespace Task

def step? (id : Nat) (c : Control) : Task → Option (Progress × Control)
  | .startQueued profile =>
    if c.lock.isSome then none
    else some (.stage (.startLocked profile), { c with lock := some id })
  | .startLocked profile =>
    if c.flag then some (.answer false, c.unlock)
    else some (.stage (.startRaised profile), { c with flag := true })
  | .startRaised profile =>
    some (.stage (.startSpawned c.nextRun),
      { c with
        runs := c.runs ++ [Run.new c.nextRun profile]
        nextRun := c.nextRun + 1 })
  | .startSpawned run => some (.answer true, { c with slot := some run, lock := none })
  | .stopQueued =>
    if c.lock.isSome then none else some (.stage .stopLocked, { c with lock := some id })
  | .stopLocked => some (.stage (.stopLowered c.flag), { c with flag := false })
  | .stopLowered wasUp =>
    match c.slot with
    | some run => some (.stage (.stopJoining wasUp run), { c with slot := none })
    | none => some (.answer wasUp, c.unlock)
  | .stopJoining wasUp run =>
    if c.ended run then some (.answer wasUp, (c.reap run).unlock) else none

/-- Moves a task as far as it goes without the others. Four steps always suffice. -/
def run (id : Nat) : Nat → Task → Control → Progress × Control
  | 0, task, c => (.stage task, c)
  | fuel + 1, task, c =>
    match task.step? id c with
    | none => (.stage task, c)
    | some (.answer value, c) => (.answer value, c)
    | some (.stage task, c) => run id fuel task c

/-- A task can be dropped only where it waits: for the lock or for a run to end. -/
def awaits : Task → Bool
  | .startQueued _ => true
  | .stopQueued => true
  | .stopJoining .. => true
  | _ => false

/-- Drops a task where it waits: while queued nothing happened yet, and one that waits for a
run lets go of the lock and leaves the run to itself.
-/
def drop (c : Control) : Task → Control
  | .stopJoining _ run => (c.reap run).unlock
  | _ => c

end Task

end CallWatch.Load
