import CallWatch.Proofs.Load.Instant
import CallWatch.Proofs.Load.Invariant

/-! The service drives the bench as the floor moves.
All that a request does before it waits is a history of moves, as is all that happens at an
instant; so what holds on every floor holds of the bench, however the service drives it.
-/

namespace CallWatch.Load

open Control

namespace Floor

/-- A floor on which control and a request stand as they did is the floor itself. -/
theorem withStanding_self {f : Floor} {id : Nat} {standing : Standing}
    (h : f.requests[id]? = some standing)
    : (f.withControl f.control).withStanding id standing = f := by
  obtain ⟨inside, rfl⟩ := List.getElem?_eq_some_iff.mp h
  simp [withStanding, withControl, control]

/-- Moving a task as far as it goes is a history of steps of its request, and leaves the runs
in order; by induction on the steps.
-/
theorem reaches_run (surroundings : Surroundings) (id fuel : Nat) (task : Task) (f : Floor)
    (orderly : f.control.Orderly) (standing : f.requests[id]? = some (.open task))
    : let moved := task.run id fuel f.control
      Reaches surroundings (fun _ move => move = .proceed id) f
          ((f.withControl moved.2).withStanding id moved.1.standing)
        ∧ moved.2.Orderly := by
  induction fuel generalizing task f with
  | zero =>
      simp only [Task.run, Progress.standing, withStanding_self standing]
      exact ⟨.refl, orderly⟩
  | succ fuel ih =>
      obtain ⟨inside, -⟩ := List.getElem?_eq_some_iff.mp standing
      cases step : task.step? id f.control with
      | none =>
          simp only [Task.run, step, Progress.standing, withStanding_self standing]
          exact ⟨.refl, orderly⟩
      | some moved =>
          obtain ⟨progress, c⟩ := moved
          let next := (f.withControl c).withStanding id progress.standing
          have proceeds : f.step? surroundings .zero (.proceed id) = some next :=
            step?_proceed.mpr ⟨task, progress, c, standing, step, rfl⟩
          have first : Reaches surroundings (fun _ move => move = .proceed id) f next :=
            Reaches.refl.tail rfl proceeds
          have after : next.control.Orderly := orderly.step? step
          cases progress with
          | answer value =>
              simp only [Task.run, step]
              exact ⟨first, after⟩
          | stage task =>
              obtain ⟨others, last⟩ := ih task next after (List.getElem?_set_self inside)
              simp only [Task.run, step]
              refine ⟨first.trans ?_, last⟩
              simpa [next, withStanding, withControl, control] using others

end Floor

namespace Task

/-- The steps that a task takes at most until it has its answer. -/
def stepsLeft : Task → Nat
  | .startQueued _ | .stopQueued => 4
  | .startLocked _ | .stopLocked => 3
  | .startRaised _ | .stopLowered _ => 2
  | .startSpawned _ | .stopJoining .. => 1

/-- A step brings a task nearer to its answer, by cases on the stages. -/
theorem stepsLeft_step? {id : Nat} {c next : Control} {task later : Task}
    (moved : task.step? id c = some (.stage later, next))
    : later.stepsLeft < task.stepsLeft := by
  cases task with
  | startRaised | stopLocked =>
      cases moved
      simp [stepsLeft]
  | startSpawned => cases moved
  | startQueued | startLocked | stopQueued | stopLowered | stopJoining =>
      simp only [step?] at moved
      split at moved <;> cases moved <;> simp [stepsLeft]

/-- A task that cannot move waits, by cases on the stages. -/
theorem awaits_of_stuck {id : Nat} {c : Control} {task : Task} (stuck : task.step? id c = none)
    : task.awaits = true := by
  cases task with
  | startQueued | stopQueued | stopJoining => rfl
  | startRaised | startSpawned | stopLocked => cases stuck
  | startLocked | stopLowered =>
      simp only [step?] at stuck
      split at stuck <;> cases stuck

/-- A task that has moved as far as it goes and has no answer cannot move; by induction on the
steps.
-/
theorem stuck_of_run {id fuel : Nat} {c next : Control} {task later : Task}
    (enough : task.stepsLeft ≤ fuel) (stays : task.run id fuel c = (.stage later, next))
    : later.step? id next = none := by
  induction fuel generalizing task c with
  | zero => cases task <;> cases enough
  | succ fuel ih =>
      cases step : task.step? id c with
      | none =>
          simp only [run, step] at stays
          cases stays
          exact step
      | some moved =>
          obtain ⟨progress, c⟩ := moved
          simp only [run, step] at stays
          cases progress with
          | answer => cases stays
          | stage =>
              have nearer := stepsLeft_step? step
              exact ih (by omega) stays

/-- So it waits, and can be dropped there. -/
theorem awaits_of_run {id fuel : Nat} {c next : Control} {task later : Task}
    (enough : task.stepsLeft ≤ fuel) (stays : task.run id fuel c = (.stage later, next))
    : later.awaits = true :=
  awaits_of_stuck (stuck_of_run enough stays)

/-- A start waits for the lock as it came, or it is answered in one go: whether it is let in is
told by the flag.
-/
theorem run_startQueued (id : Nat) (profile : LoadProfile) (c : Control)
    : ((startQueued profile).run id 4 c).1
      = if c.lock.isSome then .stage (.startQueued profile) else .answer (!c.flag) := by
  cases locked : c.lock.isSome <;> cases flag : c.flag <;> simp [run, step?, locked, flag]

/-- Four steps suffice for every task. -/
theorem stepsLeft_le (task : Task)
    : task.stepsLeft ≤ 4 := by
  cases task <;> simp [stepsLeft]

end Task

namespace Floor

/-- A floor as the service drives it: time passes by settling the bench, all of it or what was
due before an instant; a request is made, moves as far as it goes, and may be given up, if
drops of this kind are allowed.
-/
inductive Driven (surroundings : Surroundings) (kind : Floor → Move → Prop) (o : Observatory)
    : Floor → Prop
  | opening : Driven surroundings kind o (Floor.opening o)
  | settle {f : Floor} (now : Duration) (before : Driven surroundings kind o f)
    : Driven surroundings kind o { f with bench := f.bench.settle surroundings now }
  | advance {f : Floor} (now limit : Duration) (before : Driven surroundings kind o f)
    : Driven surroundings kind o
        { f with bench := f.bench.advanceBefore surroundings now limit }
  | ask {f : Floor} (errand : Errand) (before : Driven surroundings kind o f)
    : Driven surroundings kind o { f with requests := f.requests ++ [.open errand.task] }
  | proceed {f : Floor} {id : Nat} {task : Task} (before : Driven surroundings kind o f)
    (standing : f.requests[id]? = some (.open task))
    : Driven surroundings kind o
        ((f.withControl (task.run id 4 f.control).2).withStanding id
          (task.run id 4 f.control).1.standing)
  | drop {f : Floor} {id : Nat} {task : Task} (before : Driven surroundings kind o f)
    (standing : f.requests[id]? = some (.open task)) (allowed : kind f (.drop id))
    : Driven surroundings kind o
        ((f.withControl (task.drop f.control)).withStanding id .dropped)

/-- What holds of a driven floor beside what moves tell: its runs are in order, and every open
request waits, so that it can be dropped.
-/
structure Steady (f : Floor) : Prop where
  orderly : f.control.Orderly
  waits : ∀ (id : Nat) (task : Task), f.requests[id]? = some (.open task) → task.awaits = true

/-- However the service drives it, the floor is one that moves reach, and it is steady; by
induction on what the service does.
-/
theorem Driven.reaches {surroundings : Surroundings} {kind : Floor → Move → Prop}
    {o : Observatory} {f : Floor} (driven : Driven surroundings kind o f)
    (free : ∀ f move, move.drops = false → kind f move)
    : Reaches surroundings kind (Floor.opening o) f ∧ f.Steady := by
  have runs : ∀ (f : Floor) (move : Move), f.OfRuns move → kind f move := by
    intro f move ofRuns
    cases move with
    | ask | proceed | drop => cases ofRuns
    | launch | look | land | lower | retire => exact free f _ rfl
  induction driven with
  | opening => exact ⟨.refl, idle_orderly, fun _ _ asked => (by simp [Floor.opening] at asked)⟩
  | settle now _ ih =>
      obtain ⟨reached, steady⟩ := ih
      obtain ⟨moves, orderly⟩ := reaches_settle surroundings now _ steady.orderly
      exact ⟨reached.trans (moves.mono runs), orderly, steady.waits⟩
  | advance now limit _ ih =>
      obtain ⟨reached, steady⟩ := ih
      obtain ⟨moves, orderly⟩ := reaches_advance surroundings now _ steady.orderly _
      exact ⟨reached.trans (moves.mono runs), orderly, steady.waits⟩
  | @ask f errand _ ih =>
      obtain ⟨reached, steady⟩ := ih
      have moved :
          f.step? surroundings .zero (.ask errand)
            = some { f with requests := f.requests ++ [.open errand.task] } := rfl
      refine ⟨reached.tail (free f _ rfl) moved, steady.orderly, ?_⟩
      intro id task standing
      rcases cases_of_getElem?_concat standing with old | ⟨-, new⟩
      · exact steady.waits id task old
      · cases new
        cases errand <;> rfl
  | @proceed f id task _ standing ih =>
      obtain ⟨reached, steady⟩ := ih
      obtain ⟨moves, orderly⟩ :=
        reaches_run surroundings id 4 task f steady.orderly standing
      refine ⟨reached.trans (moves.mono ?_), orderly, ?_⟩
      · rintro f _ rfl
        exact free f _ rfl
      · intro other later asked
        rcases cases_of_getElem?_set asked with ⟨-, here⟩ | ⟨-, asked⟩
        · cases moved : task.run id 4 f.control with
          | mk progress c =>
              rw [moved] at here
              cases progress with
              | answer => cases here
              | stage =>
                  cases here
                  exact Task.awaits_of_run task.stepsLeft_le moved
        · exact steady.waits other later asked
  | @drop f id task _ standing allowed ih =>
      obtain ⟨reached, steady⟩ := ih
      have moved :
          f.step? surroundings .zero (.drop id)
            = some ((f.withControl (task.drop f.control)).withStanding id .dropped) :=
        step?_drop.mpr ⟨task, standing, steady.waits id task standing, rfl⟩
      refine ⟨reached.tail allowed moved, steady.orderly.of_sublist (task.drop_runs _) ?_, ?_⟩
      · cases task <;> rfl
      · intro other later asked
        rcases cases_of_getElem?_set asked with ⟨-, here⟩ | ⟨-, asked⟩
        · cases here
        · exact steady.waits other later asked

end Floor

end CallWatch.Load
