import CallWatch.Proofs.Load.Rest
import CallWatch.Proofs.Load.Standing

/-! Where the profiles of runs come from.
A run has the profile of the start that began it, and keeps it. So what holds of the profiles of
all starts holds of the profiles of all runs.
-/

namespace CallWatch.Load

/-- If a task is to begin a run, the profile of the run is of some kind. -/
def Task.Asks (kind : LoadProfile → Prop) : Task → Prop
  | .startQueued profile => kind profile
  | .startLocked profile => kind profile
  | .startRaised profile => kind profile
  | _ => True

/-- The profiles of the runs are of some kind. -/
def Control.Runs (kind : LoadProfile → Prop) (c : Control) : Prop :=
  ∀ r ∈ c.runs, kind r.profile

section Tasks
variable {kind : LoadProfile → Prop} {id : Nat} {c next : Control} {task : Task}

/-- A step of a task begins no run but one of its own profile, by cases on the stages. -/
theorem Control.Runs.step? (runs : c.Runs kind) (asks : task.Asks kind) {progress : Progress}
    (moved : task.step? id c = some (progress, next))
    : next.Runs kind ∧ ∀ later, progress = .stage later → later.Asks kind := by
  cases task with
  | startRaised profile =>
      cases moved
      refine ⟨List.forall_mem_append.mpr ⟨runs, List.forall_mem_singleton.mpr asks⟩, ?_⟩
      rintro _ ⟨rfl⟩
      trivial
  | startSpawned | stopLocked =>
      cases moved
      refine ⟨runs, fun later stays => ?_⟩
      cases stays <;> trivial
  | startQueued | startLocked | stopQueued | stopLowered =>
      simp only [Task.step?] at moved
      split at moved <;> cases moved
      all_goals
        refine ⟨runs, fun later stays => ?_⟩
        cases stays <;> exact asks
  | stopJoining wasUp run =>
      simp only [Task.step?] at moved
      split at moved
      · cases moved
        refine ⟨fun r member => runs r (mem_of_mem_reap member), fun later stays => ?_⟩
        cases stays
      · cases moved

/-- So does a task that moves as far as it goes, by induction on the steps. -/
theorem Control.Runs.run (runs : c.Runs kind) (asks : task.Asks kind) (id fuel : Nat)
    : (task.run id fuel c).2.Runs kind
      ∧ ∀ later, (task.run id fuel c).1 = .stage later → later.Asks kind := by
  induction fuel generalizing task c with
  | zero =>
      refine ⟨runs, ?_⟩
      rintro _ ⟨rfl⟩
      exact asks
  | succ fuel ih =>
      cases moved : task.step? id c with
      | none =>
          simp only [Task.run, moved]
          refine ⟨runs, ?_⟩
          rintro _ ⟨rfl⟩
          exact asks
      | some step =>
          obtain ⟨progress, next⟩ := step
          obtain ⟨after, later⟩ := runs.step? asks moved
          cases progress with
          | answer =>
              simp only [Task.run, moved]
              refine ⟨after, fun later stays => ?_⟩
              cases stays
          | stage stage =>
              simp only [Task.run, moved]
              exact ih after (later stage rfl)

theorem Control.Runs.drop (runs : c.Runs kind) (task : Task)
    : (task.drop c).Runs kind :=
  fun r member => runs r ((task.drop_runs c).subset member)

end Tasks

-----------------------------------------------------------------------------------------
-- The bench
-----------------------------------------------------------------------------------------

namespace Bench
variable (surroundings : Surroundings) (now : Duration)

/-- Whatever all runs do at an instant, their profiles stay, by induction on them. -/
theorem profile_advanceRuns (flag : Bool) (due : Worker → Bool) (runs : List Run)
    (o : Observatory)
    : (advanceRuns surroundings flag now due runs o).1.map Run.profile
      = runs.map Run.profile := by
  induction runs generalizing o with
  | nil => rfl
  | cons r rest ih =>
      have same : (r.advance surroundings flag now due o).1.profile = r.profile := by
        simp only [Run.advance]
        split <;> rfl
      simp only [advanceRuns, List.map_cons, ih, same]

theorem profile_advance (due : Worker → Bool) (b : Bench)
    : (b.advance surroundings now due).control.runs.map Run.profile
      = b.control.runs.map Run.profile :=
  profile_advanceRuns surroundings now b.control.flag due b.control.runs b.observatory

/-- All that happens at an instant begins no run. -/
theorem profile_settle (b : Bench)
    : ((b.settle surroundings now).control.runs.map Run.profile).Sublist
        (b.control.runs.map Run.profile) := by
  let launched : Bench := { b with control := b.control.launch now }
  let advanced := launched.advance surroundings now fun _ => true
  have launches : launched.control.runs.map Run.profile = b.control.runs.map Run.profile := by
    simp [launched]
  have advances : advanced.control.runs.map Run.profile = launched.control.runs.map Run.profile :=
    profile_advance surroundings now (fun _ => true) launched
  have ends : (b.settle surroundings now).control.runs.Sublist advanced.control.runs := by
    have left := runs_finishAll (advanced.control.runs.filter Run.exhausted) advanced.control
    exact left ▸ List.filter_sublist
  exact launches ▸ advances ▸ ends.map Run.profile

/-- What holds of all profiles before an instant holds of all after it. -/
theorem runs_settle {kind : LoadProfile → Prop} {b : Bench} (runs : b.control.Runs kind)
    : (b.settle surroundings now).control.Runs kind := by
  intro r member
  have kept := (profile_settle surroundings now b).subset (List.mem_map_of_mem member)
  obtain ⟨s, before, same⟩ := List.mem_map.mp kept
  exact same ▸ runs s before

theorem runs_advance {kind : LoadProfile → Prop} {b : Bench} (runs : b.control.Runs kind)
    (due : Worker → Bool)
    : (b.advance surroundings now due).control.Runs kind := by
  intro r member
  have kept : r.profile ∈ b.control.runs.map Run.profile :=
    profile_advance surroundings now due b ▸ List.mem_map_of_mem member
  obtain ⟨s, before, same⟩ := List.mem_map.mp kept
  exact same ▸ runs s before

end Bench

end CallWatch.Load
