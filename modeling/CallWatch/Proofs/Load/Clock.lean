import CallWatch.Proofs.Load.Books
import CallWatch.Proofs.Load.Rest

/-! A load run under a clock that moves timer by timer.
The clock passes no instant at which the run could still move, so it never gets past the end of
a call under way: a run that can begin no more calls is over when the longest of them would be.
The clock that runs, with all that happens at an instant in one go, is of that kind.
-/

namespace CallWatch.Load

open Time (Timers)

/-- The instant from which on no call begins: the deadline of the run, or the instant at which
the flag was lowered, whichever comes first.
-/
def lastBeginning (start : Duration) (profile : LoadProfile) : Option Duration → Duration
  | none => start + profile.duration
  | some lowered =>
    if lowered < start + profile.duration then lowered else start + profile.duration

/-- What is before the deadline and before the flag is lowered is before both. -/
theorem le_lastBeginning {start instant lowered : Duration} {profile : LoadProfile}
    (early : instant ≤ start + profile.duration) (before : instant ≤ lowered)
    : instant ≤ lastBeginning start profile (some lowered) := by
  simp only [lastBeginning]
  split
  · exact before
  · exact early

-----------------------------------------------------------------------------------------
-- Timer by timer
-----------------------------------------------------------------------------------------

/-- No run can make a move at an instant. -/
def Floor.Quiet (surroundings : Surroundings) (now : Duration) (f : Floor) : Prop :=
  ∀ move : Move, move.run?.isSome = true → f.step? surroundings now move = none

/-- What can come of a floor with one run under a clock that moves timer by timer: the run makes
a move of its own, others lower the flag once, or the clock moves on, past instants at which
nothing could be done. The instant at which the flag was lowered is kept, if it was.
-/
inductive Floor.Ticks (surroundings : Surroundings) (start : Duration) (f : Floor)
    : Option Duration → Duration → Floor → Prop
  | opening : Ticks surroundings start f none start f
  | moves {lowered? : Option Duration} {now : Duration} {g h : Floor} {move : Move}
    (before : Ticks surroundings start f lowered? now g) (own : move.run?.isSome = true)
    (moved : g.step? surroundings now move = some h)
    : Ticks surroundings start f lowered? now h
  | lowers {now : Duration} {g : Floor} (before : Ticks surroundings start f none now g)
    : Ticks surroundings start f (some now) now
        (g.withControl { g.control with flag := false })
  | waits {lowered? : Option Duration} {at_ now : Duration} {g : Floor}
    (before : Ticks surroundings start f lowered? at_ g) (since : at_ ≤ now)
    (quiet : ∀ instant, at_ ≤ instant → instant < now → g.Quiet surroundings instant)
    : Ticks surroundings start f lowered? now g

namespace Floor.Ticks
variable {surroundings : Surroundings} {start at_ now : Duration} {f g h : Floor}
  {lowered? : Option Duration}

/-- It is one of the ways in which the run can come along, by induction on it. -/
theorem plays (ticks : f.Ticks surroundings start lowered? now g)
    : ∃ history, f.Plays surroundings start history now g := by
  induction ticks with
  | opening => exact ⟨_, .opening⟩
  | moves _ own moved ih =>
      obtain ⟨_, plays⟩ := ih
      exact ⟨_, plays.moves (Nat.le_refl _) own moved⟩
  | lowers _ ih =>
      obtain ⟨_, plays⟩ := ih
      exact ⟨_, plays.flags false⟩
  | waits _ since _ ih =>
      obtain ⟨_, plays⟩ := ih
      exact ⟨_, plays.waits since⟩

/-- Moves of the run at an instant go on with it, by induction on them. -/
theorem movesAt (ticks : f.Ticks surroundings start lowered? now g)
    (moves : MovesAt surroundings now g h)
    : f.Ticks surroundings start lowered? now h := by
  induction moves with
  | refl => exact ticks
  | tail _ own moved ih => exact ih.moves own moved

-----------------------------------------------------------------------------------------
-- The clock that runs
-----------------------------------------------------------------------------------------

section Running
variable {b : Bench} {requests : List Standing}

/-- All that happens at an instant goes on with it, and leaves the bench at rest. -/
theorem settle (ticks : f.Ticks surroundings start lowered? now ⟨b, requests⟩)
    (orderly : b.control.Orderly)
    : f.Ticks surroundings start lowered? now ⟨b.settle surroundings now, requests⟩
      ∧ (b.settle surroundings now).Rests now :=
  ⟨ticks.movesAt (moves_settle surroundings now ⟨b, requests⟩ orderly).1,
    Bench.rests_settle orderly surroundings now⟩

/-- The clock moves on with a bench at rest up to its deadline. -/
theorem waitsAtRest (ticks : f.Ticks surroundings start lowered? at_ ⟨b, requests⟩)
    (rests : b.Rests at_) (since : at_ ≤ now)
    (early : ∀ deadline, b.wake? = some deadline → now ≤ deadline)
    : f.Ticks surroundings start lowered? now ⟨b, requests⟩ :=
  ticks.waits since fun _ _ before _ own =>
    rests.step?_eq_none
      (fun deadline due => Nat.lt_of_lt_of_le before (early deadline due)) own requests

/-- So it does through all deadlines up to an instant, by the recursion along them. -/
theorem runTo {target : Duration}
    (ticks : f.Ticks surroundings start lowered? now ⟨b, requests⟩) (rests : b.Rests now)
    (early : now ≤ target)
    : let last := (Bench.timers surroundings).runTo target now b
      f.Ticks surroundings start lowered? target ⟨last, requests⟩ ∧ last.Rests target := by
  refine Timers.runTo_induction
    (fun now b => f.Ticks surroundings start lowered? now ⟨b, requests⟩ ∧ b.Rests now)
    (fun last =>
      f.Ticks surroundings start lowered? target ⟨last, requests⟩ ∧ last.Rests target)
    ?_ ?_ early ⟨ticks, rests⟩
  · intro now b deadline before due later upTo
    obtain ⟨ticks, rests⟩ := before
    obtain ⟨whole, -⟩ := rests.wake_of_wake? due
    refine (ticks.waitsAtRest rests (Nat.le_of_lt later) fun other also => ?_).settle
      rests.orderly
    cases due.symm.trans also
    exact Nat.le_of_eq (congrArg Duration.nanos whole)
  · intro now b before upTo passed
    obtain ⟨ticks, rests⟩ := before
    refine (ticks.waitsAtRest rests upTo fun deadline due => ?_).settle rests.orderly
    obtain ⟨whole, ahead⟩ := rests.wake_of_wake? due
    have outside := passed deadline due
    rw [whole] at outside
    exact Nat.le_of_not_lt fun before => outside ⟨ahead, Nat.le_of_lt before⟩

/-- Others lower the flag between two instants of a bench at rest. -/
theorem lowersAtRest (ticks : f.Ticks surroundings start none now ⟨b, requests⟩)
    (rests : b.Rests now)
    : let lowered : Bench := { b with control := { b.control with flag := false } }
      f.Ticks surroundings start (some now) now ⟨lowered, requests⟩ ∧ lowered.Rests now :=
  ⟨ticks.lowers, ⟨⟨rests.orderly.numbered, rests.orderly.distinct, rests.orderly.up⟩, rests.busy,
    rests.runs⟩⟩

end Running

end Floor.Ticks

-----------------------------------------------------------------------------------------
-- Calls in time
-----------------------------------------------------------------------------------------

/-- A worker is in time: it looks at a whole millisecond, and the call that it is inside began
at one, when calls still began, takes no longer than the longest, and is not yet over or just
so.
-/
structure Worker.Timely (start : Duration) (profile : LoadProfile) (lowered? : Option Duration)
    (now : Duration) (w : Worker) : Prop where
  looking : w.activity = .looking → now.wake = now
  longest :
    ∀ call startedAt, w.call? = some (call, startedAt) → call.latency ≤ longestCall
  whole : ∀ call startedAt, w.call? = some (call, startedAt) → startedAt.wake = startedAt
  begun :
    ∀ call startedAt, w.call? = some (call, startedAt)
      → startedAt ≤ now ∧ startedAt ≤ lastBeginning start profile lowered?
  ahead :
    ∀ call startedAt, w.call? = some (call, startedAt)
      → now ≤ (startedAt + call.latency).wake

section Timely
variable {surroundings : Surroundings} {start at_ now : Duration} {profile : LoadProfile}
  {lowered? : Option Duration} {flag : Bool} {w : Worker}

namespace Worker.Timely
variable (timely : w.Timely start profile lowered? now)
include timely

/-- A call under way is over when the longest call that could begin would be. -/
theorem wake_le {call : SyntheticCall} {startedAt : Duration}
    (inside : w.call? = some (call, startedAt))
    : (startedAt + call.latency).wake ≤ lastBeginning start profile lowered? + longestCall := by
  have longest := timely.longest call startedAt inside
  have early := (timely.begun call startedAt inside).2
  have whole := timely.whole call startedAt inside
  have bound : (startedAt + call.latency).wake ≤ (startedAt + longestCall).wake :=
    Duration.wake_mono (Nat.add_le_add_left longest _)
  rw [show longestCall = Duration.ofMillis 300 from rfl, Duration.wake_add_ofMillis, whole]
    at bound
  exact Nat.le_trans bound (Nat.add_le_add_right early _)

/-- A worker that looks is in time: a call that begins does so before the deadline and while the
flag is up.
-/
theorem look (looking : w.activity = .looking) (raised : flag = true → lowered? = none)
    : (w.look (Terms.ofLaunch start profile) flag now).Timely start profile lowered? now := by
  by_cases permit : (Terms.ofLaunch start profile).Permit flag now
  · obtain ⟨drawn, drew, -, looks⟩ := exists_look_of_permit looking permit
    have call : drawn.1.Drawn _ := drew ▸ draw_drawn _ _
    have none := raised permit.1
    rw [looks]
    constructor
    · exact nofun
    · rintro _ _ ⟨rfl⟩
      exact call.longest
    · rintro _ _ ⟨rfl⟩
      exact timely.looking looking
    · rintro _ _ ⟨rfl⟩
      refine ⟨Nat.le_refl _, ?_⟩
      rw [none]
      exact Nat.le_of_lt permit.2
    · rintro _ _ ⟨rfl⟩
      exact Nat.le_trans (Nat.le_add_right _ _) (Duration.le_wake (now + drawn.1.latency))
  · rw [look_of_refused looking permit]
    constructor <;> exact nofun

/-- So is one whose call is over: the clock has not passed the instant at which it is. -/
theorem land {call : SyntheticCall} {startedAt : Duration}
    (inside : w.call? = some (call, startedAt))
    (ended : (startedAt + call.latency).wake ≤ now)
    : ({ w with activity := .looking } : Worker).Timely start profile lowered? now := by
  have same : now.nanos = (startedAt + call.latency).wake.nanos :=
    Nat.le_antisymm (timely.ahead call startedAt inside) ended
  constructor
  · intro _
    rw [show now = (startedAt + call.latency).wake from congrArg Duration.mk same,
      Duration.wake_wake]
  · exact nofun
  · exact nofun
  · exact nofun
  · exact nofun

omit timely in
/-- So is one that is done. -/
theorem done
    : ({ w with activity := .done } : Worker).Timely start profile lowered? now := by
  constructor <;> exact nofun

/-- Once others have lowered the flag no more calls begin. -/
theorem lower (none : lowered? = none)
    : w.Timely start profile (some now) now := by
  refine { timely with begun := ?_ }
  intro call startedAt inside
  obtain ⟨passed, early⟩ := timely.begun call startedAt inside
  rw [none] at early
  exact ⟨passed, le_lastBeginning early passed⟩

/-- The clock moves on past no end of a call, and does not move while a worker looks. -/
theorem wait {later : Duration} (since : now ≤ later) (still : w.activity = .looking → now = later)
    (passesNone : ∀ wake, w.wake? = some wake → later ≤ wake)
    : w.Timely start profile lowered? later := by
  refine ⟨fun looking => still looking ▸ timely.looking looking, timely.longest, timely.whole,
    fun call startedAt inside => ?_, fun call startedAt inside => ?_⟩
  · obtain ⟨passed, early⟩ := timely.begun call startedAt inside
    exact ⟨Nat.le_trans passed since, early⟩
  · exact passesNone _ (by rw [w.wake?_eq, inside]; rfl)

end Worker.Timely

/-- A run is in time: it is over and the flag is down, or its workers are in time and the clock
has not passed the instant at which the longest call that could begin is over.
-/
inductive Floor.Timely (start : Duration) (profile : LoadProfile) (lowered? : Option Duration)
    (now : Duration) : Floor → Prop
  | ended (o : Observatory) : Timely start profile lowered? now (.solo none false o)
  | manned {workers : List Worker} {lowered flag : Bool} (o : Observatory)
    (workersTimely : ∀ w ∈ workers, w.Timely start profile lowered? now)
    (early : now ≤ lastBeginning start profile lowered? + longestCall)
    (raised : flag = true → lowered? = none ∧ lowered = false)
    : Timely start profile lowered? now
        (.solo (some (Run.manned start profile workers lowered)) flag o)

namespace Floor
variable {workers : List Worker} {lowered : Bool} {o : Observatory} {g h : Floor}

/-- A move of the run keeps it in time, by cases on the move. -/
theorem Timely.moves (timely : g.Timely start profile lowered? now) {move : Move}
    (own : move.run?.isSome = true) (moved : g.step? surroundings now move = some h)
    : h.Timely start profile lowered? now := by
  cases timely with
  | ended =>
      rw [step?_solo_none own] at moved
      cases moved
  | @manned workers lowered flag o workersTimely early raised =>
      have changed {index : Nat} {next : Worker}
          (same : next.Timely start profile lowered? now)
          : ∀ w ∈ workers.set index next, w.Timely start profile lowered? now := by
        intro w member
        rcases List.mem_or_eq_of_mem_set member with before | rfl
        · exact workersTimely w before
        · exact same
      have step := soloMoves_of_step? own moved
      generalize deeds surroundings now _ move = seen at step
      cases step with
      | looks found looking =>
          have member := workersTimely _ (List.mem_of_getElem? found)
          exact .manned _ (changed (member.look looking fun up => (raised up).1)) early raised
      | lands found inside ended =>
          have member := workersTimely _ (List.mem_of_getElem? found)
          exact .manned _ (changed (member.land inside ended)) early raised
      | breaks => exact .manned _ (changed .done) early raised
      | lowers => exact .manned _ workersTimely early nofun
      | retires =>
          have down : flag = false := by
            by_contra up
            cases (raised (by simpa using up)).2
          rw [down]
          exact .ended _

/-- In a run that is quiet no worker looks, and the calls under way are not yet over. -/
theorem of_quiet_solo
    : (solo (some (Run.manned start profile workers lowered)) flag o).Quiet surroundings now
      → (∀ w ∈ workers, w.activity ≠ .looking)
        ∧ ∀ w ∈ workers, ∀ wake, w.wake? = some wake → now < wake := by
  intro quiet
  constructor
  · intro w member looking
    obtain ⟨index, found⟩ := List.mem_iff_getElem?.mp member
    have possible :
        ((solo (some (Run.manned start profile workers lowered)) flag o).step? surroundings now
          (.look 0 index)).isSome = true := look_possible found looking
    rw [quiet _ rfl] at possible
    cases possible
  · intro w member wake calling
    obtain ⟨index, found⟩ := List.mem_iff_getElem?.mp member
    obtain ⟨⟨call, startedAt⟩, inside, rfl⟩ := Option.map_eq_some_iff.mp (w.wake?_eq ▸ calling)
    by_contra ended
    have possible :
        ((solo (some (Run.manned start profile workers lowered)) flag o).step? surroundings now
          (.land 0 index)).isSome = true := land_possible found inside (Nat.le_of_not_lt ended)
    rw [quiet _ rfl] at possible
    cases possible

/-- A run that is quiet when the longest call that could begin is over has ended. -/
theorem Timely.over_of_quiet (timely : g.Timely start profile lowered? at_)
    (late : lastBeginning start profile lowered? + longestCall ≤ now)
    (quiet : g.Quiet surroundings now)
    : g.control.runs = [] ∧ g.control.flag = false := by
  cases timely with
  | ended => exact ⟨rfl, rfl⟩
  | @manned workers lowered flag o workersTimely =>
      have ended : ∀ w ∈ workers, ∀ wake, w.wake? = some wake → wake ≤ now := by
        intro w member wake calling
        obtain ⟨⟨call, startedAt⟩, inside, rfl⟩ :=
          Option.map_eq_some_iff.mp (w.wake?_eq ▸ calling)
        exact Nat.le_trans ((workersTimely w member).wake_le inside) late
      obtain ⟨move, own, possible⟩ := exists_possible ended
      rw [quiet move own] at possible
      cases possible

/-- The clock moves on and keeps the run in time: it does not pass an instant at which the run
could move, and past the last end of a call the run could always.
-/
theorem Timely.waits (timely : g.Timely start profile lowered? at_) (since : at_ ≤ now)
    (quiet : ∀ instant, at_ ≤ instant → instant < now → g.Quiet surroundings instant)
    : g.Timely start profile lowered? now := by
  rcases Nat.eq_or_lt_of_le since with same | later
  · rwa [show now = at_ from congrArg Duration.mk same.symm]
  · cases timely with
    | ended o => exact .ended o
    | @manned workers lowered flag o workersTimely early raised =>
        have restsAt := of_quiet_solo (quiet at_ (Nat.le_refl _) later)
        refine .manned o (fun w member => ?_) ?_ raised
        · refine (workersTimely w member).wait since
            (fun looking => absurd looking (restsAt.1 w member)) fun wake calling => ?_
          by_contra passed
          have before : at_ < wake := restsAt.2 w member wake calling
          have ended := quiet wake (Nat.le_of_lt before) (Nat.lt_of_not_le passed)
          exact Nat.lt_irrefl _ ((of_quiet_solo ended).2 w member wake calling)
        · by_contra passed
          have ended := Timely.over_of_quiet (.manned o workersTimely early raised) (Nat.le_refl _)
            (quiet _ early (Nat.lt_of_not_le passed))
          simp [control, solo, Bench.solo] at ended

/-- A run under a clock that moves timer by timer is in time, by induction on what comes of
it.
-/
theorem Ticks.timely {seeding : Seeding} (told : (start + profile.duration).IsInstant)
    (whole : start.wake = start)
    (ticks : (launched seeding start profile true o).Ticks surroundings start lowered? now g)
    : g.Timely start profile lowered? now := by
  induction ticks with
  | opening =>
      rw [launched_eq_manned told]
      refine .manned o (fun w member => ?_) ?_ fun _ => ⟨rfl, rfl⟩
      · obtain ⟨index, found⟩ := List.mem_iff_getElem?.mp member
        rw [getElem?_crew found]
        exact ⟨fun _ => whole, nofun, nofun, nofun, nofun⟩
      · exact Nat.le_trans (Nat.le_add_right _ _) (Nat.le_add_right _ _)
  | moves _ own moved ih => exact ih.moves own moved
  | @lowers now g _ ih =>
      cases ih with
      | ended o => exact .ended o
      | manned o workersTimely early raised =>
          refine .manned o (fun w member => (workersTimely w member).lower rfl) ?_ nofun
          have soon : lastBeginning start profile none + longestCall
              = start + profile.duration + longestCall := rfl
          simp only [lastBeginning]
          split
          · exact Nat.le_add_right _ _
          · exact early
  | waits _ since quiet ih => exact ih.waits since quiet

end Floor

end Timely

end CallWatch.Load
