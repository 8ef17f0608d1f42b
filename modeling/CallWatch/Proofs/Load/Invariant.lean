import CallWatch.Proofs.Load.Moves
import CallWatch.Proofs.Load.Standing

/-! The invariant of the floor: it holds at the opening, and every move keeps it unless it
drops a stop that waits for a run at work.
-/

namespace CallWatch.Load

open Control

-----------------------------------------------------------------------------------------
-- What the runs do by themselves
-----------------------------------------------------------------------------------------

/-- What the runs do to the shared state: the slot and the lock stay, and no run begins; and
either the flag stays and so does who is under way, or the only run under way lowers the flag
and is under way no more.
-/
structure Control.Drift (c d : Control) : Prop where
  slot : d.slot = c.slot
  lock : d.lock = c.lock
  nextRun : d.nextRun = c.nextRun
  begun : ∀ r ∈ d.runs, ∃ s ∈ c.runs, s.number = r.number
  runs :
    (d.flag = c.flag ∧ ∀ n, d.Underway n ↔ c.Underway n)
    ∨ (d.flag = false ∧ (∃ n, c.Underway n) ∧ ∀ n, ¬ d.Underway n)

/-- What is under way after a drift was so before. -/
theorem Control.Drift.underway {c d : Control} (h : Drift c d) {n : Nat} (after : d.Underway n)
    : c.Underway n := by
  rcases h.runs with ⟨-, same⟩ | ⟨-, -, none⟩
  · exact (same n).mp after
  · exact absurd after (none n)

theorem Control.Drift.flagTells {c d : Control} (h : Drift c d) (tells : c.FlagTells)
    : d.FlagTells := by
  rcases h.runs with ⟨flag, same⟩ | ⟨down, -, none⟩
  · simpa only [FlagTells, flag, same] using tells
  · exact flagTells_of_quiet down none

theorem Control.Drift.flag_down {c d : Control} (h : Drift c d) (down : c.flag = false)
    : d.flag = false := by
  rcases h.runs with ⟨flag, -⟩ | ⟨down, -, -⟩
  · exact flag.trans down
  · exact down

theorem Control.Drift.settled {c d : Control} (h : Drift c d) (settled : c.Settled)
    : d.Settled :=
  ⟨h.flagTells settled.flagTells,
    fun n underway => h.slot.trans (settled.owned n (h.underway underway))⟩

/-- What a task relies on outlives a drift, by cases on its stage. -/
theorem Control.Drift.stands {c d : Control} (h : Drift c d) {task : Task}
    (stands : task.Stands c)
    : task.Stands d := by
  cases task with
  | startQueued | stopQueued => trivial
  | startLocked | stopLocked => exact h.settled stands
  | startRaised profile =>
      obtain ⟨up, none⟩ := stands
      rcases h.runs with ⟨flag, same⟩ | ⟨-, ⟨n, underway⟩, -⟩
      · exact ⟨flag.trans up, fun n after => none n ((same n).mp after)⟩
      · exact absurd underway (none n)
  | startSpawned run =>
      obtain ⟨latest, tells⟩ := stands
      exact ⟨latest.trans h.nextRun.symm, h.flagTells tells⟩
  | stopLowered wasUp =>
      obtain ⟨down, owned⟩ := stands
      exact ⟨h.flag_down down, fun n after => h.slot.trans (owned n (h.underway after))⟩
  | stopJoining wasUp run =>
      obtain ⟨down, empty, begun, only⟩ := stands
      exact ⟨h.flag_down down, h.slot.trans empty, h.nextRun ▸ begun,
        fun n after => only n (h.underway after)⟩

/-- A change to the inside of a run begins none. -/
theorem Control.begun_onRun {c : Control} {number : Nat} {f : Run → Run}
    (sameNumber : ∀ r, (f r).number = r.number)
    : ∀ r ∈ (c.onRun number f).runs, ∃ s ∈ c.runs, s.number = r.number := by
  intro r member
  obtain ⟨s, inRuns, rfl⟩ := List.mem_map.mp member
  refine ⟨s, inRuns, ?_⟩
  split
  · exact (sameNumber s).symm
  · rfl

/-- A change to the inside of a run is a drift. -/
theorem Control.drift_onRun {c : Control} {number : Nat} {f : Run → Run}
    (sameNumber : ∀ r, (f r).number = r.number)
    (sameLowered : ∀ r, (f r).lowered = r.lowered)
    : Drift c (c.onRun number f) :=
  ⟨rfl, rfl, rfl, begun_onRun sameNumber,
    Or.inl ⟨rfl, underway_onRun sameNumber sameLowered⟩⟩

/-- The last act of the run under way is a drift. -/
theorem Control.Sound.drift_lower {c : Control} (h : c.Sound) {number : Nat}
    (underway : c.Underway number)
    : Drift c (c.lower number) := by
  refine ⟨rfl, rfl, rfl, begun_onRun fun _ => rfl, Or.inr ⟨rfl, ⟨number, underway⟩, ?_⟩⟩
  intro n after
  obtain ⟨before, other⟩ := underway_lower.mp after
  exact other (h.underway_unique before underway)

/-- Retiring a run that has lowered the flag is a drift. -/
theorem Control.Sound.drift_retire {c : Control} (h : c.Sound) {r : Run} (member : r ∈ c.runs)
    (lowered : r.lowered = true)
    : Drift c (c.retire r.number) := by
  refine ⟨rfl, rfl, rfl, fun s kept => ⟨s, List.mem_of_mem_filter kept, rfl⟩,
    Or.inl ⟨rfl, fun n => ?_⟩⟩
  rw [underway_retire]
  refine ⟨And.left, fun underway => ⟨underway, ?_⟩⟩
  rintro rfl
  obtain ⟨s, inRuns, same, up⟩ := underway
  rw [h.eq_of_number inRuns member same, lowered] at up
  cases up

-----------------------------------------------------------------------------------------
-- Workers in their runs
-----------------------------------------------------------------------------------------

/-- A run with a live worker has not lowered the flag. -/
theorem Control.Sound.lowered_of_mem {c : Control} (h : c.Sound) {r : Run}
    (member : r ∈ c.runs) {w : Worker} (held : w ∈ r.workers) (live : w.live = true)
    : r.lowered = false := by
  have runLive : r.live = true := List.any_eq_true.mpr ⟨w, held, live⟩
  obtain ⟨s, inRuns, same, up⟩ := h.underway_of_live member runLive
  exact h.eq_of_number inRuns member same ▸ up

/-- A move of a live worker keeps the runs sound. -/
theorem Control.Sound.setWorker {c : Control} (h : c.Sound) {r : Run} (member : r ∈ c.runs)
    {w : Worker} (held : w ∈ r.workers) (live : w.live = true) (index : Nat) (next : Worker)
    : (c.onRun r.number (Run.setWorker index next)).Sound := by
  refine h.onRun (fun _ => rfl) (fun _ lowered => lowered) ?_
  intro s inRuns same lowered
  have up := h.lowered_of_mem member held live
  rw [← h.eq_of_number inRuns member same] at up
  cases up.symm.trans lowered

theorem Control.Sound.launch {c : Control} (h : c.Sound) {r : Run} (member : r ∈ c.runs)
    (waiting : r.waiting = true) (now : Duration)
    : (c.onRun r.number (Run.launch now)).Sound := by
  refine h.onRun (Run.launch_number now) (fun r lowered => Run.launch_lowered now r ▸ lowered) ?_
  intro s inRuns same lowered
  obtain ⟨t, known, named, up⟩ := h.underway_of_waiting member waiting
  rw [h.eq_of_number known inRuns (named.trans same.symm)] at up
  cases up.symm.trans (Run.launch_lowered now s ▸ lowered)

namespace Floor

/-- A move of a run is one of a run that has not ended. It leaves the requests alone, keeps
the runs sound and is a drift, by cases on the move.
-/
theorem step?_run {surroundings : Surroundings} {now : Duration} {f g : Floor} {move : Move}
    {run : Nat} (sound : f.control.Sound) (moving : move.run? = some run)
    (moved : f.step? surroundings now move = some g)
    : (∃ r ∈ f.control.runs, r.number = run)
      ∧ g.requests = f.requests
      ∧ g.control.Sound
      ∧ Drift f.control g.control := by
  have worker : ∀ index, move = .look run index ∨ move = .land run index →
      (∃ r ∈ f.control.runs, r.number = run) ∧ g.requests = f.requests ∧ g.control.Sound
        ∧ Drift f.control g.control := by
    intro index own
    obtain ⟨r, member, rfl, w, held, next, o, live, rfl, -⟩ := step?_worker own moved
    exact ⟨⟨r, member, rfl⟩, rfl, sound.setWorker member held live index next,
      drift_onRun (fun _ => rfl) (fun _ => rfl)⟩
  cases move with
  | ask | proceed | drop => cases moving
  | launch =>
      cases moving
      obtain ⟨r, member, rfl, waiting, rfl⟩ := step?_launch moved
      exact ⟨⟨r, member, rfl⟩, rfl, sound.launch member waiting now,
        drift_onRun (Run.launch_number now) (Run.launch_lowered now)⟩
  | look _ index =>
      cases moving
      exact worker index (Or.inl rfl)
  | land _ index =>
      cases moving
      exact worker index (Or.inr rfl)
  | lower =>
      cases moving
      obtain ⟨r, member, rfl, exhausted, lowered, rfl⟩ := step?_lower moved
      exact ⟨⟨r, member, rfl⟩, rfl, sound.lower member exhausted,
        sound.drift_lower ⟨r, member, rfl, lowered⟩⟩
  | retire =>
      cases moving
      obtain ⟨r, member, rfl, lowered, rfl⟩ := step?_retire moved
      exact ⟨⟨r, member, rfl⟩, rfl, sound.retire r.number, sound.drift_retire member lowered⟩

-----------------------------------------------------------------------------------------
-- The invariant
-----------------------------------------------------------------------------------------

/-- The invariant of the floor: the runs are sound; the request beyond the queue, if there is
one, has the lock and what it relies on; and nothing is unsettled while the lock is free.
-/
structure Invariant (f : Floor) : Prop where
  sound : f.control.Sound
  stands :
    ∀ (id : Nat) (task : Task),
      f.requests[id]? = some (.open task) → task.holds = true
      → f.control.lock = some id ∧ task.Stands f.control
  free : f.control.lock = none → f.control.Settled

/-- A move drops no stop that waits for a run at work. -/
def Harmless (f : Floor) (move : Move) : Prop :=
  ∀ (request run : Nat) (wasUp : Bool),
    move = .drop request → f.requests[request]? = some (.open (.stopJoining wasUp run))
    → ¬ f.control.AtWork run

theorem opening_invariant (o : Observatory)
    : (opening o).Invariant :=
  ⟨idle_sound, fun _ _ asked => (by simp [opening] at asked), fun _ => idle_settled⟩

/-- Making a request keeps the invariant: it joins the queue for the lock. -/
theorem Invariant.ask {f : Floor} (h : f.Invariant) (errand : Errand)
    : ({ f with requests := f.requests ++ [.open errand.task] } : Floor).Invariant := by
  refine ⟨h.sound, ?_, h.free⟩
  intro id task standing holding
  rcases cases_of_getElem?_concat standing with old | ⟨-, new⟩
  · exact h.stands id task old holding
  · cases new
    cases errand <;> cases holding

/-- A step of a request keeps the invariant: no other request is beyond the queue. -/
theorem Invariant.proceed {f : Floor} (h : f.Invariant) {id : Nat} {task : Task}
    (standing : f.requests[id]? = some (.open task)) {progress : Progress} {c : Control}
    (step : task.step? id f.control = some (progress, c))
    : ((f.withControl c).withStanding id progress.standing).Invariant := by
  obtain ⟨sound, arrives, queued⟩ :=
    Task.step?_arrives h.sound h.free (h.stands id task standing) step
  refine ⟨sound, ?_, ?_⟩
  · intro other next asked holding
    rcases cases_of_getElem?_set asked with ⟨rfl, here⟩ | ⟨elsewhere, asked⟩
    · cases progress with
      | stage stage =>
          cases here
          exact arrives.2
      | answer value => cases here
    · have theirs := (h.stands other next asked holding).1
      cases mine : task.holds with
      | false => cases (queued mine).symm.trans theirs
      | true =>
          have ours := (h.stands id task standing mine).1
          exact absurd (Option.some.inj (theirs.symm.trans ours)) elsewhere
  · intro unlocked
    cases progress with
    | stage stage => cases unlocked.symm.trans arrives.2.1
    | answer value => exact arrives.2

/-- Dropping a queued request, or a stop whose run is not at work, keeps the invariant. -/
theorem Invariant.drop {f : Floor} (h : f.Invariant) {id : Nat} {task : Task}
    (standing : f.requests[id]? = some (.open task)) (awaits : task.awaits = true)
    (harmless : f.Harmless (.drop id))
    : ((f.withControl (task.drop f.control)).withStanding id .dropped).Invariant := by
  cases task with
  | startLocked | startRaised | startSpawned | stopLocked | stopLowered => cases awaits
  | startQueued | stopQueued =>
      refine ⟨h.sound, ?_, h.free⟩
      intro other next asked holding
      rcases cases_of_getElem?_set asked with ⟨-, here⟩ | ⟨-, asked⟩
      · cases here
      · exact h.stands other next asked holding
  | stopJoining wasUp run =>
      obtain ⟨locked, down, -, -, only⟩ := h.stands id _ standing rfl
      have none : ∀ n, ¬ (f.control.reap run).Underway n := by
        intro n underway
        have its := only n (underway_of_reap underway)
        exact not_underway_reap (harmless id run wasUp rfl standing) (its ▸ underway)
      have settled : (f.control.reap run).Settled := settled_of_quiet down none
      refine ⟨sound_lock (h.sound.reap run) _, ?_, fun _ => settled_lock settled _⟩
      intro other next asked holding
      rcases cases_of_getElem?_set asked with ⟨-, here⟩ | ⟨elsewhere, asked⟩
      · cases here
      · have theirs := (h.stands other next asked holding).1
        exact absurd (Option.some.inj (theirs.symm.trans locked)) elsewhere

/-- Every harmless move keeps the invariant. -/
theorem Invariant.step {surroundings : Surroundings} {now : Duration} {f g : Floor}
    {move : Move} (h : f.Invariant) (harmless : f.Harmless move)
    (moved : f.step? surroundings now move = some g)
    : g.Invariant := by
  cases moving : move.run? with
  | some run =>
      obtain ⟨-, same, sound, drift⟩ := step?_run h.sound moving moved
      refine ⟨sound, ?_, fun unlocked => drift.settled (h.free (drift.lock ▸ unlocked))⟩
      intro id task standing holding
      obtain ⟨locked, stands⟩ := h.stands id task (same ▸ standing) holding
      exact ⟨drift.lock.trans locked, drift.stands stands⟩
  | none =>
      cases move with
      | ask errand =>
          cases moved
          exact h.ask errand
      | proceed id =>
          obtain ⟨task, progress, c, standing, step, rfl⟩ := step?_proceed.mp moved
          exact h.proceed standing step
      | drop id =>
          obtain ⟨task, standing, awaits, rfl⟩ := step?_drop.mp moved
          exact h.drop standing awaits harmless
      | launch | look | land | lower | retire => cases moving

/-- Harmless moves keep the invariant, by induction on the moves. -/
theorem Invariant.reaches {surroundings : Surroundings} {f g : Floor} (h : f.Invariant)
    (reached : Reaches surroundings Harmless f g)
    : g.Invariant := by
  induction reached with
  | refl => exact h
  | tail _ harmless moved ih => exact ih.step harmless moved

end Floor

end CallWatch.Load
