import CallWatch.Load.Profile
import CallWatch.Load.Worker

/-! A load run: its workers, which share a deadline, and the flag that the run lowers when
the last of them is done. A run whose deadline the clock cannot tell breaks off at its launch:
it has no workers, and never lowers the flag.
-/

namespace CallWatch.Load

/-- The terms of a run that is launched at an instant: the deadline counts from there. -/
def Terms.ofLaunch (start : Duration) (profile : LoadProfile) : Terms :=
  ⟨start + profile.duration, profile.errorPct⟩

/-- A run. Its workers are there from its launch on, and once it has lowered the flag or has
broken off it has nothing left to do.
-/
structure Run where
  number : Nat
  profile : LoadProfile
  launched : Option (Terms × List Worker)
  lowered : Bool
  brokenOff : Bool

namespace Run

/-- A run that has been started and not launched yet. -/
def new (number : Nat) (profile : LoadProfile) : Run :=
  ⟨number, profile, none, false, false⟩

/-- A run waits for its launch. -/
def waiting (r : Run) : Bool :=
  r.launched.isNone && !r.brokenOff

/-- The terms of a run that is launched at an instant; there are none if the clock cannot tell
the deadline.
-/
def terms? (now : Duration) (r : Run) : Option Terms :=
  let terms := Terms.ofLaunch now r.profile
  if terms.deadline.IsInstant then some terms else none

/-- Launches a run that waits for it, with workers whose streams come from a seeding. -/
def launchWith (seeding : Seeding) (now : Duration) (r : Run) : Run :=
  if r.waiting then
    match r.terms? now with
    | some terms =>
      { r with
        launched := some (terms, (List.range r.profile.workers).map (Worker.start seeding)) }
    | none => { r with brokenOff := true }
  else r

def launch (now : Duration) (r : Run) : Run :=
  r.launchWith .own now

@[simp] theorem launch_number (now : Duration) (r : Run)
    : (r.launch now).number = r.number := by
  simp only [launch, launchWith]
  split
  · split <;> rfl
  · rfl

@[simp] theorem launch_profile (now : Duration) (r : Run)
    : (r.launch now).profile = r.profile := by
  simp only [launch, launchWith]
  split
  · split <;> rfl
  · rfl

@[simp] theorem launch_lowered (now : Duration) (r : Run)
    : (r.launch now).lowered = r.lowered := by
  simp only [launch, launchWith]
  split
  · split <;> rfl
  · rfl

/-- A run waits no more once it has been launched or has broken off. -/
@[simp] theorem waiting_launchWith (seeding : Seeding) (now : Duration) (r : Run)
    : (r.launchWith seeding now).waiting = false := by
  simp only [launchWith]
  split
  · split <;> simp [waiting]
  · next other => simpa using other

theorem launch_eq_self {r : Run} (launched : r.waiting = false) (now : Duration)
    : r.launch now = r := by
  simp only [launch, launchWith, launched, Bool.false_eq_true, if_false]

/-- A run whose deadline the clock can tell is launched with all its workers. -/
theorem launchWith_new_of_told {now : Duration} {profile : LoadProfile}
    (told : (now + profile.duration).IsInstant) (seeding : Seeding) (number : Nat)
    : (new number profile).launchWith seeding now
      = { new number profile with
          launched :=
            some (.ofLaunch now profile,
              (List.range profile.workers).map (Worker.start seeding)) } := by
  have terms : (new number profile).terms? now = some (.ofLaunch now profile) := if_pos told
  simp only [launchWith, terms]
  rfl

/-- One whose deadline it cannot tell breaks off. -/
theorem launchWith_new_of_untold {now : Duration} {profile : LoadProfile}
    (untold : ¬ (now + profile.duration).IsInstant) (seeding : Seeding) (number : Nat)
    : (new number profile).launchWith seeding now
      = { new number profile with brokenOff := true } := by
  have terms : (new number profile).terms? now = none := if_neg untold
  simp only [launchWith, terms]
  rfl

def workers (r : Run) : List Worker :=
  match r.launched with
  | some (_, workers) => workers
  | none => []

/-- A run that is launched has its workers looking, and all others are as before. -/
theorem mem_workers_launch {now : Duration} (r : Run) {w : Worker}
    (member : w ∈ (r.launch now).workers)
    : w ∈ r.workers ∨ w.activity = .looking := by
  simp only [launch, launchWith] at member
  split at member
  · split at member
    · obtain ⟨id, -, rfl⟩ := List.mem_map.mp member
      exact .inr rfl
    · exact .inl member
  · exact .inl member

/-- Some worker of a run may still make calls or is inside one. -/
def live (r : Run) : Bool :=
  r.workers.any Worker.live

def exhausted (r : Run) : Bool :=
  r.launched.isSome && r.workers.all fun w => !w.live

/-- The instant at which the next call of a run is over. -/
def wake? (r : Run) : Option Duration :=
  r.workers.foldl (fun earliest w => Duration.earlier? earliest w.wake?) none

def advanceWorkers (surroundings : Surroundings) (terms : Terms) (flag : Bool)
    (now : Duration) (due : Worker → Bool)
    : List Worker → Observatory → List Worker × Observatory
  | [], o => ([], o)
  | w :: rest, o =>
    let (w, o) := if due w then w.advance surroundings terms flag now o else (w, o)
    let (rest, o) := advanceWorkers surroundings terms flag now due rest o
    (w :: rest, o)

/-- The terms of a run with one of its workers. -/
def worker? (index : Nat) (r : Run) : Option (Terms × Worker) :=
  r.launched.bind fun (terms, workers) => workers[index]?.map fun w => (terms, w)

def setWorker (index : Nat) (w : Worker) (r : Run) : Run :=
  { r with
    launched := r.launched.map fun (terms, workers) => (terms, workers.set index w) }

def advance (surroundings : Surroundings) (flag : Bool) (now : Duration)
    (due : Worker → Bool) (r : Run) (o : Observatory) : Run × Observatory :=
  match r.launched with
  | none => (r, o)
  | some (terms, workers) =>
    let (workers, o) := advanceWorkers surroundings terms flag now due workers o
    ({ r with launched := some (terms, workers) }, o)

@[simp] theorem advance_number (surroundings : Surroundings) (flag : Bool) (now : Duration)
    (due : Worker → Bool) (r : Run) (o : Observatory)
    : (r.advance surroundings flag now due o).1.number = r.number := by
  simp only [advance]
  split <;> rfl

@[simp] theorem advance_lowered (surroundings : Surroundings) (flag : Bool) (now : Duration)
    (due : Worker → Bool) (r : Run) (o : Observatory)
    : (r.advance surroundings flag now due o).1.lowered = r.lowered := by
  simp only [advance]
  split <;> rfl

end Run

end CallWatch.Load
