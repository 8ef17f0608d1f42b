import CallWatch.Proofs.Load.Ownership

/-! Stops that are dropped where they wait.
A stop that is dropped in the queue leaves no trace. One that is dropped while it waits for a
run at work leaves that run without an owner: the flag is down and the slot is empty, so a
start can begin another run beside it.
-/

namespace CallWatch.Load

open Control

namespace Floor

/-- No run is detached, whatever comes after as long as no further request is dropped.

- `started`: a start that has the answer `true` has filled the slot, and no run other than the
  one in the slot has a live worker or is yet to be launched;
- `lowers`: no newer run is under way when a run lowers a raised flag;
- `stopped`: a stop has its answer when no worker is live.
-/
structure NoneDetached (surroundings : Surroundings) (f : Floor) : Prop where
  started :
    ∀ (g h : Floor) (request : Nat) (task : Task),
      Reaches surroundings Undropped f g
      → task.starts = true → Answers surroundings request task true g h
      → ∀ r ∈ h.control.runs,
          h.control.slot ≠ some r.number → r.live = false ∧ r.waiting = false
  lowers :
    ∀ (g h : Floor) (now : Duration) (run : Nat),
      Reaches surroundings Undropped f g
      → g.control.flag = true → g.step? surroundings now (.lower run) = some h
      → ∀ other, g.control.Underway other → other ≤ run
  stopped :
    ∀ (g h : Floor) (request : Nat) (task : Task) (value : Bool),
      Reaches surroundings Undropped f g
      → task.starts = false → Answers surroundings request task value g h
      → ∀ r ∈ h.control.runs, r.live = false

theorem Reaches.goOn {surroundings : Surroundings} {f g h : Floor} {now : Duration}
    {move : Move} (before : Reaches surroundings Undropped f g) (kept : move.drops = false)
    (moved : g.step? surroundings now move = some h)
    : Reaches surroundings Undropped f h :=
  before.tail kept moved

/-- While the invariant holds no run is detached. -/
theorem Invariant.noneDetached {surroundings : Surroundings} {f : Floor} (h : f.Invariant)
    : f.NoneDetached surroundings := by
  have kept : ∀ g, Reaches surroundings Undropped f g → g.Invariant :=
    fun g reached => h.reaches (reached.mono fun _ _ => Undropped.harmless)
  constructor
  · intro g k request task reached starts answers r member other
    obtain ⟨run, -, filled, only⟩ := (kept g reached).started starts answers
    obtain ⟨now, moved⟩ := answers.moved
    have undropped : g.Undropped (.proceed request) := rfl
    have after := (kept g reached).step undropped.harmless moved
    have idle : ¬ k.control.Underway r.number := fun underway =>
      other ((only _ underway).symm ▸ filled)
    constructor
    · cases live : r.live with
      | false => rfl
      | true => exact absurd (after.sound.underway_of_live member live) idle
    · cases waiting : r.waiting with
      | false => rfl
      | true => exact absurd (after.sound.underway_of_waiting member waiting) idle
  · intro g k now run reached _ moved other underway
    have last := ((kept g reached).lowers moved).1
    have latest := (kept g reached).sound.last other underway
    omega
  · intro g k request task value reached stops answers
    obtain ⟨now, moved⟩ := answers.moved
    have undropped : g.Undropped (.proceed request) := rfl
    have after := (kept g reached).step undropped.harmless moved
    exact after.live_eq_false ((kept g reached).stopped stops answers).2

-----------------------------------------------------------------------------------------
-- A start beside a run
-----------------------------------------------------------------------------------------

/-- A step of a task is a move of its request. -/
theorem exists_proceed (surroundings : Surroundings) {f : Floor} {id : Nat} {task : Task}
    (standing : f.requests[id]? = some (.open task)) {progress : Progress} {c : Control}
    (step : task.step? id f.control = some (progress, c))
    : ∃ g, f.step? surroundings Duration.zero (.proceed id) = some g
        ∧ g.requests[id]? = some progress.standing
        ∧ g.control = c := by
  obtain ⟨inside, -⟩ := List.getElem?_eq_some_iff.mp standing
  exact ⟨_, step?_proceed.mpr ⟨task, progress, c, standing, step, rfl⟩,
    List.getElem?_set_self inside, rfl⟩

/-- The shared state after a start that found the lock free and the flag down. -/
def startedControl (c : Control) (profile : LoadProfile) : Control :=
  { flag := true
    slot := some c.nextRun
    lock := none
    runs := c.runs ++ [Run.new c.nextRun profile]
    nextRun := c.nextRun + 1 }

/-- While the lock is free and the flag down a start goes through to the answer `true`. -/
theorem exists_start (surroundings : Surroundings) {f : Floor} (free : f.control.lock = none)
    (down : f.control.flag = false) (profile : LoadProfile)
    : ∃ g h request,
        Reaches surroundings Undropped f g
        ∧ Answers surroundings request (.startSpawned f.control.nextRun) true g h
        ∧ h.control = startedControl f.control profile := by
  let asked : Floor := { f with requests := f.requests ++ [.open (.startQueued profile)] }
  have queued : asked.requests[f.requests.length]? = some (.open (.startQueued profile)) := by
    simp [asked]
  have locks :
      Task.step? f.requests.length asked.control (.startQueued profile)
        = some (.stage (.startLocked profile),
            { f.control with lock := some f.requests.length }) := by
    simp only [Task.step?]
    exact if_neg (by simp [free, show asked.control = f.control from rfl])
  obtain ⟨locked, toLocked, atLocked, isLocked⟩ :=
    exists_proceed surroundings queued locks
  have raises :
      Task.step? f.requests.length locked.control (.startLocked profile)
        = some (.stage (.startRaised profile),
            { f.control with flag := true, lock := some f.requests.length }) := by
    simp only [Task.step?, isLocked, down]
    rfl
  obtain ⟨raised, toRaised, atRaised, isRaised⟩ :=
    exists_proceed surroundings atLocked raises
  have spawns :
      Task.step? f.requests.length raised.control (.startRaised profile)
        = some (.stage (.startSpawned f.control.nextRun),
            { f.control with
              flag := true
              lock := some f.requests.length
              runs := f.control.runs ++ [Run.new f.control.nextRun profile]
              nextRun := f.control.nextRun + 1 }) := by
    simp only [Task.step?, isRaised]
  obtain ⟨spawned, toSpawned, atSpawned, isSpawned⟩ :=
    exists_proceed surroundings atRaised spawns
  have fills :
      Task.step? f.requests.length spawned.control (.startSpawned f.control.nextRun)
        = some (.answer true, startedControl f.control profile) := by
    simp only [Task.step?, isSpawned, startedControl]
  obtain ⟨filled, toFilled, atFilled, isFilled⟩ :=
    exists_proceed surroundings atSpawned fills
  have asks : f.step? surroundings Duration.zero (.ask (.start profile)) = some asked := rfl
  have reached : Reaches surroundings Undropped f spawned :=
    (((Reaches.refl.goOn rfl asks).goOn rfl toLocked).goOn rfl toRaised).goOn rfl toSpawned
  exact ⟨spawned, filled, _, reached, ⟨atSpawned, ⟨_, toFilled⟩, atFilled⟩, isFilled⟩

/-- A run at work while the lock is free and the flag down is detached: a start can go through,
and then the run is yet to be launched, or a worker of it is live, or it lowers the flag of the
newer one.
-/
theorem detached {surroundings : Surroundings} {f : Floor} (sound : f.control.Sound)
    (free : f.control.lock = none) (down : f.control.flag = false) {run : Nat}
    (atWork : f.control.AtWork run)
    : ¬ f.NoneDetached surroundings := by
  intro attached
  obtain ⟨r, member, rfl, running, whole⟩ := atWork
  obtain ⟨g, h, request, reached, answers, control⟩ :=
    exists_start surroundings free down default
  have older : r.number < f.control.nextRun := sound.numbered r member
  have inRuns : r ∈ h.control.runs := by
    rw [control]
    exact List.mem_append_left _ member
  have other : h.control.slot ≠ some r.number := by
    rw [control]
    intro same
    exact absurd (Option.some.inj same) (Nat.ne_of_gt older)
  obtain ⟨idle, launched⟩ := attached.started g h request _ reached rfl answers r inRuns other
  cases live : r.live with
  | true => cases live.symm.trans idle
  | false =>
      have exhausted : r.exhausted = true := by
        have present : r.launched.isSome = true := by simpa [Run.waiting, whole] using launched
        simpa [Run.exhausted, Run.live, present] using live
      have found : h.control.run? r.number = some r := by
        have before := run?_of_mem sound.distinct member
        simp only [run?] at before
        simp only [run?, control, startedControl, List.find?_append, before, Option.some_or]
      have lowers :
          h.step? surroundings Duration.zero (.lower r.number)
            = some (h.withControl (h.control.lower r.number)) := by
        simp [step?, found, exhausted, running]
      obtain ⟨now, moved⟩ := answers.moved
      have newer : h.control.Underway f.control.nextRun := by
        rw [control]
        exact ⟨_, List.mem_append_right _ (List.mem_singleton_self _), rfl, rfl⟩
      have raised : h.control.flag = true := by rw [control]; rfl
      have latest :=
        attached.lowers h _ _ _ (reached.goOn rfl moved) raised lowers _ newer
      omega

/-- Dropping a stop detaches a run exactly if the stop waits for a run at work. -/
theorem noneDetached_drop_iff (surroundings : Surroundings) (o : Observatory) (f g : Floor)
    (request : Nat) (task : Task) (now : Duration)
    (reached : Reaches surroundings Harmless (opening o) f)
    (standing : f.requests[request]? = some (.open task)) (stops : task.starts = false)
    (dropped : f.step? surroundings now (.drop request) = some g)
    : g.NoneDetached surroundings
      ↔ ∀ wasUp run, task = .stopJoining wasUp run → ¬ f.control.AtWork run := by
  have kept : f.Invariant := (opening_invariant o).reaches reached
  constructor
  · rintro attached wasUp run rfl ⟨r, member, rfl, running, whole⟩
    obtain ⟨-, down, -⟩ := kept.stands request _ standing rfl
    obtain ⟨_, asked, -, rfl⟩ := step?_drop.mp dropped
    cases standing.symm.trans asked
    have sound := sound_lock (kept.sound.reap r.number) none
    have left : r ∈ (f.control.reap r.number).runs :=
      List.mem_filter.mpr ⟨member, by simp [whole]⟩
    exact detached (f := Floor.withStanding request _ (f.withControl _)) sound rfl down
      ⟨r, left, rfl, running, whole⟩ attached
  · intro idle
    have harmless : f.Harmless (.drop request) := by
      rintro _ run wasUp ⟨rfl⟩ waiting
      exact idle wasUp run (Standing.open.inj (Option.some.inj (standing.symm.trans waiting)))
    exact (kept.step harmless dropped).noneDetached

/-- A start whose run is launched, and a stop that has lowered the flag and taken the handle
and waits for the run.
-/
def stopWaiting : List (Duration × Move) :=
  let moves : List Move :=
    [.ask (.start ⟨1, Duration.ofSeconds 60, 0⟩), .proceed 0, .proceed 0, .proceed 0,
      .proceed 0, .launch 0, .ask .stop, .proceed 1, .proceed 1, .proceed 1]
  moves.map fun move => (Duration.zero, move)

/-- To drop this stop detaches the run. -/
theorem detached_drop_stopWaiting
    : ∃ f g, moves? default stopWaiting (opening default) = some f
        ∧ f.requests = [.answered true, .open (.stopJoining true 0)]
        ∧ f.step? default Duration.zero (.drop 1) = some g
        ∧ ¬ g.NoneDetached default := by
  refine ⟨_, _, rfl, rfl, rfl, fun attached => ?_⟩
  have undropped : ∀ f : Floor, ∀ entry ∈ stopWaiting, f.Undropped entry.2 := by
    intro f
    show ∀ entry ∈ stopWaiting, entry.2.drops = false
    decide
  have reached : Reaches default Undropped (opening default) _ :=
    reaches_of_moves? stopWaiting undropped rfl
  have harmless := reached.mono fun _ _ => Undropped.harmless
  have idle :=
    (noneDetached_drop_iff default default _ _ 1 (.stopJoining true 0) Duration.zero harmless
      rfl rfl rfl).mp attached
  exact idle true 0 rfl ⟨_, .head _, rfl, rfl, rfl⟩

end Floor

end CallWatch.Load
