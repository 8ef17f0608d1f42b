import CallWatch.Proofs.Load.Invariant

/-! Who owns the load run.
However the requests to start and to stop, the workers and the runs get along, as long as no
request is dropped: at most one run has live workers, the flag and the slot tell which, an
ending run never takes the flag from another, and a stop leaves nothing of its run behind.
-/

namespace CallWatch.Load

open Control

def Task.starts : Task → Bool
  | .startQueued _ => true
  | .startLocked _ => true
  | .startRaised _ => true
  | .startSpawned _ => true
  | _ => false

namespace Floor

def Undropped (_ : Floor) (move : Move) : Prop :=
  move.drops = false

/-- A request has its answer with the next step of its task, from one floor to another. -/
structure Answers (surroundings : Surroundings) (request : Nat) (task : Task) (value : Bool)
    (f g : Floor) : Prop where
  standing : f.requests[request]? = some (.open task)
  moved : ∃ now, f.step? surroundings now (.proceed request) = some g
  answered : g.requests[request]? = some (.answered value)

theorem Undropped.harmless {f : Floor} {move : Move} (h : f.Undropped move)
    : f.Harmless move := by
  rintro request _ _ rfl
  cases h

/-- The last step of a request is one of its task that gives the answer. -/
theorem Answers.step {surroundings : Surroundings} {request : Nat} {task : Task} {value : Bool}
    {f g : Floor} (h : Answers surroundings request task value f g)
    : task.step? request f.control = some (.answer value, g.control) := by
  obtain ⟨now, moved⟩ := h.moved
  obtain ⟨_, progress, c, standing, step, rfl⟩ := step?_proceed.mp moved
  cases h.standing.symm.trans standing
  rcases cases_of_getElem?_set h.answered with ⟨-, here⟩ | ⟨elsewhere, -⟩
  · cases progress with
    | stage => cases here
    | answer =>
        cases here
        exact step
  · exact absurd rfl elsewhere

-----------------------------------------------------------------------------------------
-- Runs that have ended
-----------------------------------------------------------------------------------------

/-- How a stop stands that found a run in the slot: it is about to take the handle, or waits
for the run, or has its answer and the run has ended.
-/
inductive Found (f : Floor) (request run : Nat) (wasUp : Bool) : Prop
  | seen (standing : f.requests[request]? = some (.open (.stopLowered wasUp)))
    (filled : f.control.slot = some run)
    : Found f request run wasUp
  | taken (standing : f.requests[request]? = some (.open (.stopJoining wasUp run)))
    : Found f request run wasUp
  | answered (standing : f.requests[request]? = some (.answered wasUp))
    (past : f.control.Past run)
    : Found f request run wasUp

/-- Where no run is under way no worker is live. -/
theorem Invariant.live_eq_false {f : Floor} (h : f.Invariant)
    (none : ∀ n, ¬ f.control.Underway n)
    : ∀ r ∈ f.control.runs, r.live = false := by
  intro r member
  cases live : r.live with
  | false => rfl
  | true => exact absurd (h.sound.underway_of_live member live) (none r.number)

/-- While nothing is unsettled and the flag is up, the slot has the handle of the one run that
has not lowered the flag.
-/
theorem Invariant.owner {f : Floor} (h : f.Invariant) (settled : f.control.Settled)
    (up : f.control.flag = true)
    : ∃ r ∈ f.control.runs,
        r.lowered = false
        ∧ f.control.slot = some r.number
        ∧ ∀ s ∈ f.control.runs, s.lowered = false → s = r := by
  obtain ⟨n, underway⟩ := settled.flagTells.mp up
  obtain ⟨r, member, rfl, lowered⟩ := id underway
  refine ⟨r, member, lowered, settled.owned _ underway, ?_⟩
  intro s inRuns running
  have same := h.sound.underway_unique ⟨s, inRuns, rfl, running⟩ underway
  exact h.sound.eq_of_number inRuns member same

/-- While nothing is unsettled and the flag is down, no run is under way. -/
theorem none_underway {f : Floor} (settled : f.control.Settled)
    (down : f.control.flag = false)
    : ∀ n, ¬ f.control.Underway n := by
  intro n underway
  have up := settled.flagTells.mpr ⟨n, underway⟩
  cases down.symm.trans up

/-- A start gives the answer `true` after it has filled the slot with its run, and no other run
is under way.
-/
theorem Invariant.started {surroundings : Surroundings} {f g : Floor} (h : f.Invariant)
    {request : Nat} {task : Task} (starts : task.starts = true)
    (answers : Answers surroundings request task true f g)
    : ∃ run,
        task = .startSpawned run
        ∧ g.control.slot = some run
        ∧ ∀ n, g.control.Underway n → n = run := by
  have step := answers.step
  cases task with
  | stopQueued | stopLocked | stopLowered | stopJoining => cases starts
  | startQueued | startLocked =>
      simp only [Task.step?] at step
      split at step <;> cases step
  | startRaised => cases step
  | startSpawned run =>
      obtain ⟨-, latest, -⟩ := h.stands request _ answers.standing rfl
      simp only [Task.step?, Option.some.injEq, Prod.mk.injEq, true_and] at step
      refine ⟨run, rfl, by rw [← step], ?_⟩
      intro n underway
      have before : f.control.Underway n := by rwa [← step] at underway
      have last := h.sound.last n before
      omega

/-- A start gives the answer `false` where it finds the flag up. -/
theorem Invariant.refused {surroundings : Surroundings} {f g : Floor} (h : f.Invariant)
    {request : Nat} {task : Task} (starts : task.starts = true)
    (answers : Answers surroundings request task false f g)
    : ∃ r ∈ g.control.runs, r.lowered = false ∧ g.control.slot = some r.number := by
  have step := answers.step
  cases task with
  | stopQueued | stopLocked | stopLowered | stopJoining => cases starts
  | startQueued =>
      simp only [Task.step?] at step
      split at step <;> cases step
  | startRaised | startSpawned => cases step
  | startLocked =>
      obtain ⟨-, settled⟩ := h.stands request _ answers.standing rfl
      simp only [Task.step?] at step
      split at step
      · next up =>
        obtain ⟨r, member, lowered, filled, -⟩ := h.owner settled up
        simp only [Option.some.injEq, Prod.mk.injEq, true_and] at step
        exact ⟨r, by rwa [← step], lowered, by rwa [← step]⟩
      · cases step

/-- A stop has its answer with the slot empty and no run under way. -/
theorem Invariant.stopped {surroundings : Surroundings} {f g : Floor} (h : f.Invariant)
    {request : Nat} {task : Task} {value : Bool} (stops : task.starts = false)
    (answers : Answers surroundings request task value f g)
    : g.control.slot = none ∧ ∀ n, ¬ g.control.Underway n := by
  have step := answers.step
  cases task with
  | startQueued | startLocked | startRaised | startSpawned => cases stops
  | stopQueued =>
      simp only [Task.step?] at step
      split at step <;> cases step
  | stopLocked => cases step
  | stopLowered wasUp =>
      obtain ⟨-, -, owned⟩ := h.stands request _ answers.standing rfl
      simp only [Task.step?] at step
      split at step
      · cases step
      · next empty =>
        simp only [Option.some.injEq, Prod.mk.injEq] at step
        rw [← step.2]
        refine ⟨empty, ?_⟩
        intro n underway
        cases empty.symm.trans (owned n underway)
  | stopJoining wasUp run =>
      obtain ⟨-, -, empty, -, only⟩ := h.stands request _ answers.standing rfl
      simp only [Task.step?] at step
      split at step
      · next ended =>
        simp only [Option.some.injEq, Prod.mk.injEq] at step
        rw [← step.2]
        refine ⟨empty, ?_⟩
        intro n underway
        have its := only n (underway_of_reap underway)
        exact not_underway_of_ended ended (its ▸ underway)
      · cases step

/-- A run lowers the flag while it is under way, so no later start can have raised it. -/
theorem Invariant.lowers {surroundings : Surroundings} {now : Duration} {f g : Floor}
    (h : f.Invariant) {run : Nat} (moved : f.step? surroundings now (.lower run) = some g)
    : run + 1 = f.control.nextRun
      ∧ ∀ (request : Nat) (profile : LoadProfile),
          f.requests[request]? ≠ some (.open (.startRaised profile)) := by
  obtain ⟨r, member, rfl, -, lowered, -⟩ := step?_lower moved
  have underway : f.control.Underway r.number := ⟨r, member, rfl, lowered⟩
  refine ⟨h.sound.last _ underway, ?_⟩
  intro request profile standing
  obtain ⟨-, -, none⟩ := h.stands request _ standing rfl
  exact none _ underway

end Floor

end CallWatch.Load
