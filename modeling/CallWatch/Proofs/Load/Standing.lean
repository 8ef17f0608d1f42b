import CallWatch.Proofs.Load.Underway

/-! What the requests to start and to stop rely on.
It depends on how far a task has come with the lock in its hands; while nobody has the lock
the flag tells whether a run is under way and the slot has its handle.
-/

namespace CallWatch.Load

open Control

namespace Task

/-- A task that no longer waits for the lock has it. -/
def holds : Task → Bool
  | .startQueued _ => false
  | .stopQueued => false
  | _ => true

/-- What a task may rely on at its stage. -/
def Stands (c : Control) : Task → Prop
  | .startQueued _ => True
  | .startLocked _ => c.Settled
  | .startRaised _ => c.flag = true ∧ ∀ n, ¬ c.Underway n
  | .startSpawned run => run + 1 = c.nextRun ∧ c.FlagTells
  | .stopQueued => True
  | .stopLocked => c.Settled
  | .stopLowered _ => c.flag = false ∧ ∀ n, c.Underway n → c.slot = some n
  | .stopJoining _ run =>
      c.flag = false
      ∧ c.slot = none
      ∧ run < c.nextRun
      ∧ ∀ n, c.Underway n → n = run

/-- How a task stands after its step: with the lock, on what its next stage relies on, or
with its answer, the lock free and everything settled.
-/
def Arrives (id : Nat) (c : Control) : Progress → Prop
  | .stage next => next.holds = true ∧ c.lock = some id ∧ next.Stands c
  | .answer _ => c.lock = none ∧ c.Settled

/-- A step of a task begins no run or a new one, and what it lets go of has broken off; by cases
on the stages.
-/
theorem step?_runs {id : Nat} {c next : Control} {task : Task} {progress : Progress}
    (h : task.step? id c = some (progress, next))
    : (next.runs.Sublist c.runs
        ∧ next.nextRun = c.nextRun
        ∧ ∀ r ∈ c.runs, r.brokenOff = false → r ∈ next.runs)
      ∨ ∃ profile, next.runs = c.runs ++ [Run.new c.nextRun profile]
        ∧ next.nextRun = c.nextRun + 1 := by
  have same :
      c.runs.Sublist c.runs ∧ c.nextRun = c.nextRun
        ∧ ∀ r ∈ c.runs, r.brokenOff = false → r ∈ c.runs :=
    ⟨.refl _, rfl, fun _ member _ => member⟩
  cases task with
  | startRaised profile =>
      cases h
      exact Or.inr ⟨profile, rfl, rfl⟩
  | startSpawned | stopLocked =>
      cases h
      exact Or.inl same
  | startQueued | startLocked | stopQueued | stopLowered =>
      simp only [step?] at h
      split at h <;> cases h <;> exact Or.inl same
  | stopJoining wasUp run =>
      simp only [step?] at h
      split at h
      · cases h
        refine Or.inl ⟨List.filter_sublist, rfl, fun r member whole => ?_⟩
        exact List.mem_filter.mpr ⟨member, by simp [whole]⟩
      · cases h

/-- A task that is dropped begins no run. -/
theorem drop_runs (c : Control) (task : Task)
    : (task.drop c).runs.Sublist c.runs := by
  cases task with
  | stopJoining => exact List.filter_sublist
  | startQueued | startLocked | startRaised | startSpawned | stopQueued | stopLocked
  | stopLowered => exact .refl _

/-- A step of a task arrives where its next stage can stand, by cases on the stages. -/
theorem step?_arrives {id : Nat} {c next : Control} {task : Task} {progress : Progress}
    (sound : c.Sound) (free : c.lock = none → c.Settled)
    (stands : task.holds = true → c.lock = some id ∧ task.Stands c)
    (h : task.step? id c = some (progress, next))
    : next.Sound ∧ Arrives id next progress ∧ (task.holds = false → c.lock = none) := by
  cases task with
  | startQueued | stopQueued =>
      simp only [step?] at h
      split at h
      · cases h
      · next unlocked =>
        have unlocked : c.lock = none := by simpa using unlocked
        cases h
        exact ⟨sound_lock sound _, ⟨rfl, rfl, settled_lock (free unlocked) _⟩, fun _ => unlocked⟩
  | startLocked profile =>
      obtain ⟨locked, settled⟩ := stands rfl
      simp only [step?] at h
      split at h
      · cases h
        exact ⟨sound_lock sound _, ⟨rfl, settled_lock settled _⟩, nofun⟩
      · next down =>
        cases h
        have none : ∀ n, ¬ c.Underway n := fun n underway =>
          down (settled.flagTells.mpr ⟨n, underway⟩)
        exact ⟨sound_flag sound _, ⟨rfl, locked, rfl, none⟩, nofun⟩
  | startRaised profile =>
      obtain ⟨locked, up, none⟩ := stands rfl
      cases h
      refine ⟨sound.spawn none profile, ⟨rfl, locked, rfl, ?_⟩, nofun⟩
      exact ⟨fun _ => ⟨c.nextRun, underway_spawn.mpr (Or.inr rfl)⟩, fun _ => up⟩
  | startSpawned run =>
      obtain ⟨locked, latest, tells⟩ := stands rfl
      cases h
      have begun : ∀ n, some run = some n → n < c.nextRun := by
        rintro n ⟨rfl⟩
        exact latest ▸ Nat.lt_succ_self run
      refine ⟨sound_lock (sound_slot sound begun) _, ⟨rfl, tells, ?_⟩, nofun⟩
      intro n underway
      have := sound.last n underway
      exact congrArg some (by omega)
  | stopLocked =>
      obtain ⟨locked, settled⟩ := stands rfl
      cases h
      exact ⟨sound_flag sound _, ⟨rfl, locked, rfl, settled.owned⟩, nofun⟩
  | stopLowered wasUp =>
      obtain ⟨locked, down, owned⟩ := stands rfl
      simp only [step?] at h
      split at h
      · next run filled =>
        cases h
        refine ⟨sound_slot sound nofun,
          ⟨rfl, locked, down, rfl, sound.slotted run filled, ?_⟩, nofun⟩
        intro n underway
        exact Option.some.inj ((owned n underway).symm.trans filled)
      · next empty =>
        cases h
        have none : ∀ n, ¬ c.Underway n := by
          intro n underway
          cases empty.symm.trans (owned n underway)
        exact ⟨sound_lock sound _, ⟨rfl, settled_lock (settled_of_quiet down none) _⟩, nofun⟩
  | stopJoining wasUp run =>
      obtain ⟨locked, down, empty, -, only⟩ := stands rfl
      simp only [step?] at h
      split at h
      · next gone =>
        cases h
        have none : ∀ n, ¬ (c.reap run).Underway n := by
          intro n underway
          have its := only n (underway_of_reap underway)
          exact not_underway_of_ended gone (its ▸ underway)
        have settled : (c.reap run).Settled := settled_of_quiet down none
        exact ⟨sound_lock (sound.reap run) _, ⟨rfl, settled_lock settled _⟩, nofun⟩
      · cases h

end Task

end CallWatch.Load
