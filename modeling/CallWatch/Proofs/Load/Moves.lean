import CallWatch.Proofs.Load.Underway

/-! What each move needs and what it does.
A request moves by a step of its task; a run moves only while it has not ended, and a worker
only where it stands in its run.
-/

namespace CallWatch.Load

open Control

namespace Floor

variable {surroundings : Surroundings} {now : Duration} {f g : Floor}

-----------------------------------------------------------------------------------------
-- Requests
-----------------------------------------------------------------------------------------

/-- A request takes its next step by one of its task. -/
theorem step?_proceed {id : Nat}
    : f.step? surroundings now (.proceed id) = some g
      ↔ ∃ task progress c,
          f.requests[id]? = some (.open task)
          ∧ task.step? id f.control = some (progress, c)
          ∧ g = (f.withControl c).withStanding id progress.standing := by
  simp only [step?]
  constructor
  · intro moved
    split at moved
    · next task standing =>
      obtain ⟨⟨progress, c⟩, step, rfl⟩ := Option.map_eq_some_iff.mp moved
      exact ⟨task, progress, c, standing, step, rfl⟩
    · cases moved
  · rintro ⟨task, progress, c, standing, step, rfl⟩
    simp only [standing, step, Option.map_some]

/-- A request is dropped only where its task waits. -/
theorem step?_drop {id : Nat}
    : f.step? surroundings now (.drop id) = some g
      ↔ ∃ task,
          f.requests[id]? = some (.open task)
          ∧ task.awaits = true
          ∧ g = (f.withControl (task.drop f.control)).withStanding id .dropped := by
  simp only [step?]
  constructor
  · intro moved
    split at moved
    · next task standing =>
      split at moved
      · next awaits => exact ⟨task, standing, awaits, (Option.some.inj moved).symm⟩
      · cases moved
    · cases moved
  · rintro ⟨task, standing, awaits, rfl⟩
    simp only [standing, awaits, if_true]

-----------------------------------------------------------------------------------------
-- Runs
-----------------------------------------------------------------------------------------

/-- A run is launched once. -/
theorem step?_launch {run : Nat} (moved : f.step? surroundings now (.launch run) = some g)
    : ∃ r ∈ f.control.runs,
        r.number = run
        ∧ r.waiting = true
        ∧ g = f.withControl (f.control.onRun run (Run.launch now)) := by
  obtain ⟨r, found, moved⟩ := Option.bind_eq_some_iff.mp moved
  obtain ⟨member, named⟩ := run?_eq_some found
  split at moved
  · next waiting =>
    exact ⟨r, member, named, waiting, (Option.some.inj moved).symm⟩
  · cases moved

/-- A look-up of a worker finds it among the workers of its run. -/
theorem worker?_eq_some {run index : Nat} {terms : Terms} {w : Worker}
    (h : f.worker? run index = some (terms, w))
    : ∃ r ∈ f.control.runs, r.number = run ∧ w ∈ r.workers := by
  obtain ⟨r, found, held⟩ := Option.bind_eq_some_iff.mp h
  obtain ⟨member, named⟩ := run?_eq_some found
  obtain ⟨⟨_, workers⟩, launched, placed⟩ := Option.bind_eq_some_iff.mp held
  obtain ⟨_, at_, same⟩ := Option.map_eq_some_iff.mp placed
  cases same
  refine ⟨r, member, named, ?_⟩
  simp only [Run.workers, launched]
  exact List.mem_of_getElem? at_

/-- A worker that looks or lands is live before it does, and what it does changes itself; only
landing changes the observatory.
-/
theorem step?_worker {run index : Nat} {move : Move}
    (own : move = .look run index ∨ move = .land run index)
    (moved : f.step? surroundings now move = some g)
    : ∃ r ∈ f.control.runs,
        r.number = run
        ∧ ∃ w ∈ r.workers, ∃ next o,
            w.live = true
            ∧ g = ⟨⟨f.control.onRun run (Run.setWorker index next), o⟩, f.requests⟩
            ∧ (move = .look run index → o = f.bench.observatory) := by
  rcases own with rfl | rfl
  · obtain ⟨⟨terms, w⟩, found, moved⟩ := Option.bind_eq_some_iff.mp moved
    obtain ⟨r, member, named, held⟩ := worker?_eq_some found
    dsimp only at moved
    split at moved
    · next looking =>
      have live : w.live = true := by simp only [Worker.live, looking]
      exact ⟨r, member, named, w, held, _, _, live, (Option.some.inj moved).symm, fun _ => rfl⟩
    · cases moved
  · obtain ⟨⟨terms, w⟩, found, moved⟩ := Option.bind_eq_some_iff.mp moved
    obtain ⟨r, member, named, held⟩ := worker?_eq_some found
    dsimp only at moved
    split at moved
    · next wake calling =>
      split at moved
      · refine ⟨r, member, named, w, held, _, _, Worker.live_of_wake? calling,
          (Option.some.inj moved).symm, ?_⟩
        intro looks
        cases looks
      · cases moved
    · cases moved

/-- A run lowers the flag once, and only when all its workers are done. -/
theorem step?_lower {run : Nat} (moved : f.step? surroundings now (.lower run) = some g)
    : ∃ r ∈ f.control.runs,
        r.number = run
        ∧ r.exhausted = true
        ∧ r.lowered = false
        ∧ g = f.withControl (f.control.lower run) := by
  obtain ⟨r, found, moved⟩ := Option.bind_eq_some_iff.mp moved
  obtain ⟨member, named⟩ := run?_eq_some found
  split at moved
  · next last =>
    simp only [Bool.and_eq_true, Bool.not_eq_true'] at last
    exact ⟨r, member, named, last.1, last.2, (Option.some.inj moved).symm⟩
  · cases moved

/-- A run retires only when it has lowered the flag. -/
theorem step?_retire {run : Nat} (moved : f.step? surroundings now (.retire run) = some g)
    : ∃ r ∈ f.control.runs,
        r.number = run
        ∧ r.lowered = true
        ∧ g = f.withControl (f.control.retire run) := by
  obtain ⟨r, found, moved⟩ := Option.bind_eq_some_iff.mp moved
  obtain ⟨member, named⟩ := run?_eq_some found
  split at moved
  · next lowered => exact ⟨r, member, named, lowered, (Option.some.inj moved).symm⟩
  · cases moved

end Floor

end CallWatch.Load
