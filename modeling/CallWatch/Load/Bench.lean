import CallWatch.Load.Control
import CallWatch.Time.Timers

/-! Load runs at work: what the workers do at an instant, and the bench as a system of
timers.
-/

namespace CallWatch.Load

/-- The shared state of load runs with the observatory that their calls go through. -/
structure Bench where
  control : Control
  observatory : Observatory
  deriving Inhabited

namespace Bench

def advanceRuns (surroundings : Surroundings) (flag : Bool) (now : Duration)
    (due : Worker → Bool) : List Run → Observatory → List Run × Observatory
  | [], o => ([], o)
  | r :: rest, o =>
    let (r, o) := r.advance surroundings flag now due o
    let (rest, o) := advanceRuns surroundings flag now due rest o
    (r :: rest, o)

def advance (surroundings : Surroundings) (now : Duration) (due : Worker → Bool)
    (b : Bench) : Bench :=
  let (runs, observatory) :=
    advanceRuns surroundings b.control.flag now due b.control.runs b.observatory
  ⟨{ b.control with runs }, observatory⟩

/-- Advances the workers whose calls were over before an instant. -/
def advanceBefore (surroundings : Surroundings) (now limit : Duration) (b : Bench) : Bench :=
  b.advance surroundings now fun w =>
    match w.wake? with
    | some wake => wake < limit
    | none => false

/-- All that happens at an instant: new runs are launched, the workers move on, and the runs
whose workers are all done end.
-/
def settle (surroundings : Surroundings) (now : Duration) (b : Bench) : Bench :=
  let b := { b with control := b.control.launch now }
  let b := b.advance surroundings now fun _ => true
  { b with control := b.control.finishExhausted }

def wake? (b : Bench) : Option Duration :=
  b.control.runs.foldl (fun earliest r => Duration.earlier? earliest r.wake?) none

def timers (surroundings : Surroundings) : Time.Timers Bench where
  deadline? := wake?
  settle := settle surroundings

/-- The bench with one run that has been started outside the slot. -/
def withRun (profile : LoadProfile) (flag : Bool) (o : Observatory) : Bench :=
  ⟨{ Control.idle with flag, runs := [Run.new 0 profile], nextRun := 1 }, o⟩

end Bench

/-- The longest time that the calls under way can take. -/
def longestCall : Duration := Duration.ofMillis 300

end CallWatch.Load
