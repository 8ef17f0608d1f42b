import CallWatch.Load.Bench

/-! Requests to start and to stop load that are carried out side by side.
The floor is the bench with every request that has been made. Requests, runs and workers move
one small step at a time, in any order and at any instants; a history of moves is one way in
which they can get along.
-/

namespace CallWatch.Load

/-- What is asked for. -/
inductive Errand where
  | start (profile : LoadProfile)
  | stop
  deriving DecidableEq, Repr

def Errand.task : Errand → Task
  | .start profile => .startQueued profile
  | .stop => .stopQueued

/-- How a request stands: it is being carried out, has its answer, or was dropped. -/
inductive Standing where
  | open (task : Task)
  | answered (value : Bool)
  | dropped
  deriving DecidableEq, Repr

/-- How a request stands after a step of its task. -/
def Progress.standing : Progress → Standing
  | .stage task => .open task
  | .answer value => .answered value

/-- The bench with the requests that have been made, numbered in their order. -/
structure Floor where
  bench : Bench
  requests : List Standing

/-- What can happen next. -/
inductive Move where
  /-- A request is made. -/
  | ask (errand : Errand)
  /-- A request takes its next step. -/
  | proceed (request : Nat)
  /-- A request is dropped where it waits. -/
  | drop (request : Nat)
  /-- A run is launched, or breaks off. -/
  | launch (run : Nat)
  /-- A worker looks at the flag and the deadline. -/
  | look (run worker : Nat)
  /-- A call of a worker is over and completes. -/
  | land (run worker : Nat)
  /-- A run whose workers are all done lowers the flag. -/
  | lower (run : Nat)
  /-- A run that has lowered the flag is over. -/
  | retire (run : Nat)
  deriving DecidableEq, Repr

def Move.run? : Move → Option Nat
  | .launch run => some run
  | .look run _ => some run
  | .land run _ => some run
  | .lower run => some run
  | .retire run => some run
  | _ => none

def Move.drops : Move → Bool
  | .drop _ => true
  | _ => false

namespace Floor

def opening (o : Observatory) : Floor :=
  ⟨⟨Control.idle, o⟩, []⟩

def control (f : Floor) : Control :=
  f.bench.control

def withControl (c : Control) (f : Floor) : Floor :=
  { f with bench := { f.bench with control := c } }

def withStanding (request : Nat) (standing : Standing) (f : Floor) : Floor :=
  { f with requests := f.requests.set request standing }

def withWorker (run index : Nat) (w : Worker) (f : Floor) : Floor :=
  f.withControl (f.control.onRun run (Run.setWorker index w))

def worker? (run index : Nat) (f : Floor) : Option (Terms × Worker) :=
  (f.control.run? run).bind (Run.worker? index)

/-- One move at an instant, if it is possible. -/
def step? (surroundings : Surroundings) (now : Duration) (f : Floor) : Move → Option Floor
  | .ask errand => some { f with requests := f.requests ++ [.open errand.task] }
  | .proceed request =>
    match f.requests[request]? with
    | some (.open task) =>
      (task.step? request f.control).map fun (progress, c) =>
        (f.withControl c).withStanding request progress.standing
    | _ => none
  | .drop request =>
    match f.requests[request]? with
    | some (.open task) =>
      if task.awaits then
        some ((f.withControl (task.drop f.control)).withStanding request .dropped)
      else none
    | _ => none
  | .launch run =>
    (f.control.run? run).bind fun r =>
      if r.waiting then some (f.withControl (f.control.onRun run (Run.launch now)))
      else none
  | .look run index =>
    (f.worker? run index).bind fun (terms, w) =>
      if w.activity = .looking then
        some (f.withWorker run index (w.look terms f.control.flag now))
      else none
  | .land run index =>
    (f.worker? run index).bind fun (_, w) =>
      match w.wake? with
      | some wake =>
        if wake ≤ now then
          let (w, o) := w.land surroundings now f.bench.observatory
          let f := f.withWorker run index w
          some { f with bench := { f.bench with observatory := o } }
        else none
      | none => none
  | .lower run =>
    (f.control.run? run).bind fun r =>
      if r.exhausted && !r.lowered then some (f.withControl (f.control.lower run)) else none
  | .retire run =>
    (f.control.run? run).bind fun r =>
      if r.lowered then some (f.withControl (f.control.retire run)) else none

/-- Moves made one after another, each at its instant. -/
def moves? (surroundings : Surroundings) : List (Duration × Move) → Floor → Option Floor
  | [], f => some f
  | (now, move) :: rest, f =>
    (f.step? surroundings now move).bind (moves? surroundings rest)

/-- The floors that can be reached by moves of some kind, at any instants. -/
inductive Reaches (surroundings : Surroundings) (kind : Floor → Move → Prop) (f : Floor)
    : Floor → Prop
  | refl : Reaches surroundings kind f f
  | tail {g h : Floor} {now : Duration} {move : Move}
    (before : Reaches surroundings kind f g) (allowed : kind g move)
    (moved : g.step? surroundings now move = some h)
    : Reaches surroundings kind f h

section Reaching
variable {surroundings : Surroundings} {kind : Floor → Move → Prop}

/-- Reaching goes on from where it has got, by induction on the second part. -/
theorem Reaches.trans {f g h : Floor} (first : Reaches surroundings kind f g)
    (second : Reaches surroundings kind g h)
    : Reaches surroundings kind f h := by
  induction second with
  | refl => exact first
  | tail _ allowed moved ih => exact .tail ih allowed moved

/-- A wider kind of moves reaches what a narrower one reaches. -/
theorem Reaches.mono {wider : Floor → Move → Prop} {f g : Floor}
    (reached : Reaches surroundings kind f g) (wide : ∀ f move, kind f move → wider f move)
    : Reaches surroundings wider f g := by
  induction reached with
  | refl => exact .refl
  | tail _ allowed moved ih => exact .tail ih (wide _ _ allowed) moved

/-- Moves of some kind reach the floor that they lead to, by induction on the moves. -/
theorem reaches_of_moves? {f g : Floor} (history : List (Duration × Move))
    (allowed : ∀ f, ∀ entry ∈ history, kind f entry.2)
    (moved : moves? surroundings history f = some g)
    : Reaches surroundings kind f g := by
  induction history generalizing f with
  | nil =>
      cases moved
      exact .refl
  | cons entry rest ih =>
      obtain ⟨now, move⟩ := entry
      obtain ⟨middle, first, others⟩ := Option.bind_eq_some_iff.mp moved
      have later := ih (fun f entry member => allowed f entry (.tail _ member)) others
      exact (Reaches.refl.tail (allowed f _ (.head _)) first).trans later

end Reaching

end Floor

end CallWatch.Load
