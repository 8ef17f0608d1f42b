import CallWatch.Proofs.Load.Deeds
import CallWatch.Proofs.Load.Moves

/-! A load run by itself.
The run is launched with workers that have streams of any kind, and others reach it through the
flag only, which they may set whenever they like. What its workers do is its history, and the
history accounts for every worker, for the observatory and for the end of the run. If the clock
cannot tell the deadline, the run breaks off at its launch and never moves.
-/

namespace CallWatch.Load

-----------------------------------------------------------------------------------------
-- One run
-----------------------------------------------------------------------------------------

/-- A floor with a run that has been started outside the slot. -/
def Floor.withRun (profile : LoadProfile) (flag : Bool) (o : Observatory) : Floor :=
  ⟨Bench.withRun profile flag o, []⟩

/-- The same floor when the run is launched, with workers whose streams come from a seeding. -/
def Floor.launched (seeding : Seeding) (start : Duration) (profile : LoadProfile) (flag : Bool)
    (o : Observatory) : Floor :=
  (withRun profile flag o).withControl
    ((withRun profile flag o).control.launchWith seeding start)

/-- The workers of a run before they do anything, each with the stream of its seed. -/
def crew (seeding : Seeding) (size : Nat) : List Worker :=
  (List.range size).map (Worker.start seeding)

/-- A run that has been launched and has not ended. -/
def Run.manned (start : Duration) (profile : LoadProfile) (workers : List Worker)
    (lowered : Bool) : Run :=
  ⟨0, profile, some (Terms.ofLaunch start profile, workers), lowered, false⟩

/-- A run that has broken off. -/
def Run.unmanned (profile : LoadProfile) : Run :=
  ⟨0, profile, none, false, true⟩

/-- A bench with a run, or with none any more. -/
def Bench.solo (run? : Option Run) (flag : Bool) (o : Observatory) : Bench :=
  ⟨⟨flag, none, none, run?.toList, 1⟩, o⟩

/-- A floor with a run and no requests. -/
def Floor.solo (run? : Option Run) (flag : Bool) (o : Observatory) : Floor :=
  ⟨Bench.solo run? flag o, []⟩

section Launch
variable {start : Duration} {profile : LoadProfile}

/-- A run whose deadline the clock can tell is launched with all its workers. -/
theorem Floor.launched_eq_manned (told : (start + profile.duration).IsInstant)
    (seeding : Seeding) (flag : Bool) (o : Observatory)
    : launched seeding start profile flag o
      = solo (some (Run.manned start profile (crew seeding profile.workers) false)) flag o :=
  congrArg (fun r : Run => solo (some r) flag o)
    (Run.launchWith_new_of_told told seeding 0)

/-- One whose deadline it cannot tell breaks off. -/
theorem Floor.launched_eq_unmanned (untold : ¬ (start + profile.duration).IsInstant)
    (seeding : Seeding) (flag : Bool) (o : Observatory)
    : launched seeding start profile flag o = solo (some (Run.unmanned profile)) flag o :=
  congrArg (fun r : Run => solo (some r) flag o)
    (Run.launchWith_new_of_untold untold seeding 0)

/-- The program launches a run with the streams of its own seeds. -/
theorem Floor.step?_launch_withRun (surroundings : Surroundings) (start : Duration)
    (profile : LoadProfile) (flag : Bool) (o : Observatory)
    : (withRun profile flag o).step? surroundings start (.launch 0)
      = some (launched .own start profile flag o) := rfl

end Launch

-----------------------------------------------------------------------------------------
-- Its moves
-----------------------------------------------------------------------------------------

namespace Floor

/-- What is seen of a worker when a move is made. -/
def deeds (surroundings : Surroundings) (now : Duration) (f : Floor) : Move → List (Nat × Deed)
  | .look run index =>
    ((f.worker? run index).map fun (terms, w) =>
      (index, w.glance terms f.control.flag now)).toList
  | .land run index =>
    ((f.worker? run index).bind fun (_, w) =>
      w.call?.map fun (call, startedAt) =>
        (index, w.landing surroundings f.bench.observatory now call startedAt)).toList
  | _ => []

/-- The moves of a run by itself, with what is seen of its workers. -/
inductive SoloMoves (surroundings : Surroundings) (start : Duration) (profile : LoadProfile)
    (now : Duration) (workers : List Worker) (flag : Bool) (o : Observatory)
    : Bool → List (Nat × Deed) → Floor → Prop
  | looks {index : Nat} {w : Worker} {lowered : Bool} (found : workers[index]? = some w)
    (looking : w.activity = .looking)
    : SoloMoves surroundings start profile now workers flag o lowered
        [(index, w.glance (Terms.ofLaunch start profile) flag now)]
        (solo
          (some (Run.manned start profile
            (workers.set index (w.look (Terms.ofLaunch start profile) flag now)) lowered))
          flag o)
  | lands {index : Nat} {w : Worker} {call : SyntheticCall} {startedAt : Duration}
    {lowered : Bool} (found : workers[index]? = some w)
    (inside : w.call? = some (call, startedAt))
    (ended : (startedAt + call.latency).wake ≤ now)
    (taken : o.takes (w.observed surroundings call) = true)
    : SoloMoves surroundings start profile now workers flag o lowered
        [(index, .records call startedAt now (w.entry surroundings now call startedAt))]
        (solo
          (some (Run.manned start profile
            (workers.set index { w with activity := .looking }) lowered))
          flag (o.enter (w.entry surroundings now call startedAt)))
  | breaks {index : Nat} {w : Worker} {call : SyntheticCall} {startedAt : Duration}
    {lowered : Bool} (found : workers[index]? = some w)
    (inside : w.call? = some (call, startedAt))
    (ended : (startedAt + call.latency).wake ≤ now)
    (refused : o.takes (w.observed surroundings call) = false)
    : SoloMoves surroundings start profile now workers flag o lowered
        [(index, .breaks call startedAt now)]
        (solo
          (some (Run.manned start profile (workers.set index { w with activity := .done })
            lowered))
          flag o)
  | lowers (spent : ∀ w ∈ workers, w.live = false)
    : SoloMoves surroundings start profile now workers flag o false []
        (solo (some (Run.manned start profile workers true)) false o)
  | retires : SoloMoves surroundings start profile now workers flag o true [] (solo none flag o)

section Solo
variable {surroundings : Surroundings} {start now : Duration} {profile : LoadProfile}
  {workers : List Worker} {lowered flag : Bool} {o : Observatory} {move : Move} {g : Floor}

theorem run?_solo (number : Nat)
    : (solo (some (Run.manned start profile workers lowered)) flag o).control.run? number
      = if number = 0 then some (Run.manned start profile workers lowered) else none := by
  by_cases same : number = 0
  · simp [solo, Bench.solo, control, Control.run?, Run.manned, same]
  · simp [solo, Bench.solo, control, Control.run?, Run.manned, same, Ne.symm same]

/-- A look-up of a worker finds it in its place. -/
theorem worker?_solo_eq_some {run index : Nat} {terms : Terms} {w : Worker}
    : (solo (some (Run.manned start profile workers lowered)) flag o).worker? run index
        = some (terms, w)
      ↔ run = 0 ∧ terms = Terms.ofLaunch start profile ∧ workers[index]? = some w := by
  rw [worker?, run?_solo]
  have placed : (Run.manned start profile workers lowered).worker? index
      = workers[index]?.map fun w => (Terms.ofLaunch start profile, w) := rfl
  by_cases same : run = 0
  · rw [if_pos same, Option.bind_some, placed, Option.map_eq_some_iff]
    constructor
    · intro h
      obtain ⟨_, found, held⟩ := h
      cases held
      exact ⟨same, rfl, found⟩
    · rintro ⟨-, rfl, found⟩
      exact ⟨w, found, rfl⟩
  · simp [same]

/-- A change to a worker changes that worker only. -/
theorem withWorker_solo (index : Nat) (w : Worker)
    : (solo (some (Run.manned start profile workers lowered)) flag o).withWorker 0 index w
      = solo (some (Run.manned start profile (workers.set index w) lowered)) flag o := by
  simp [withWorker, withControl, control, solo, Bench.solo, Control.onRun, Run.manned,
    Run.setWorker]

/-- What the run does by a move of its own is one of its moves. -/
theorem soloMoves_of_step? (own : move.run?.isSome = true)
    (moved
      : (solo (some (Run.manned start profile workers lowered)) flag o).step? surroundings now
          move
        = some g)
    : SoloMoves surroundings start profile now workers flag o lowered
        ((solo (some (Run.manned start profile workers lowered)) flag o).deeds surroundings now
          move)
        g := by
  cases move with
  | ask | proceed | drop => cases own
  | launch run =>
      obtain ⟨r, found, waiting⟩ := Option.bind_eq_some_iff.mp moved
      rw [run?_solo] at found
      split at found
      · cases found
        cases waiting
      · cases found
  | look run index =>
      obtain ⟨⟨terms, w⟩, found, moved⟩ := Option.bind_eq_some_iff.mp moved
      simp only [deeds, found]
      obtain ⟨rfl, rfl, placed⟩ := worker?_solo_eq_some.mp found
      dsimp only at moved
      split at moved
      · next looking =>
        cases moved
        rw [withWorker_solo]
        exact .looks placed looking
      · cases moved
  | land run index =>
      obtain ⟨⟨terms, w⟩, found, moved⟩ := Option.bind_eq_some_iff.mp moved
      simp only [deeds, found]
      obtain ⟨rfl, rfl, placed⟩ := worker?_solo_eq_some.mp found
      dsimp only at moved
      split at moved
      · next wake calling =>
        obtain ⟨⟨call, startedAt⟩, inside, woken⟩ :=
          Option.map_eq_some_iff.mp (w.wake?_eq ▸ calling)
        split at moved
        · next ended =>
          rw [← woken] at ended
          rw [Option.bind_some, inside, Option.map_some, Option.toList_some]
          have same : (solo (some (Run.manned start profile workers lowered)) flag
              o).bench.observatory = o := rfl
          rw [same] at moved ⊢
          cases taken : o.takes (w.observed surroundings call) with
          | true =>
              rw [Worker.land_of_takes inside ended taken] at moved
              cases moved
              rw [withWorker_solo, Worker.landing, if_pos taken]
              exact .lands placed inside ended taken
          | false =>
              rw [Worker.land_of_refused inside ended taken] at moved
              cases moved
              rw [withWorker_solo, Worker.landing, if_neg (by simp [taken])]
              exact .breaks placed inside ended taken
        · cases moved
      · cases moved
  | lower run =>
      obtain ⟨r, member, named, exhausted, up, rfl⟩ := step?_lower moved
      cases List.mem_singleton.mp member
      cases named
      cases up
      have spent : ∀ w ∈ workers, w.live = false := by
        simpa [Run.exhausted, Run.manned, Run.workers] using exhausted
      exact .lowers spent
  | retire run =>
      obtain ⟨r, member, named, spent, rfl⟩ := step?_retire moved
      cases List.mem_singleton.mp member
      cases named
      cases spent
      exact .retires

/-- Without a run there is nothing to move. -/
theorem step?_solo_none (own : move.run?.isSome = true)
    : (solo none flag o).step? surroundings now move = none := by
  cases move <;> first | rfl | cases own

-----------------------------------------------------------------------------------------
-- The run goes on
-----------------------------------------------------------------------------------------

/-- A worker that is about to look can look at any instant. -/
theorem look_possible {index : Nat} {w : Worker} (found : workers[index]? = some w)
    (looking : w.activity = .looking)
    : ((solo (some (Run.manned start profile workers lowered)) flag o).step? surroundings now
        (.look 0 index)).isSome = true := by
  simp only [step?, worker?_solo_eq_some.mpr ⟨rfl, rfl, found⟩, Option.bind_some, if_pos looking,
    Option.isSome_some]

/-- A worker that is inside a call can take it down once it is over. -/
theorem land_possible {index : Nat} {w : Worker} {call : SyntheticCall} {startedAt : Duration}
    (found : workers[index]? = some w) (inside : w.call? = some (call, startedAt))
    (ended : (startedAt + call.latency).wake ≤ now)
    : ((solo (some (Run.manned start profile workers lowered)) flag o).step? surroundings now
        (.land 0 index)).isSome = true := by
  simp only [step?, worker?_solo_eq_some.mpr ⟨rfl, rfl, found⟩, Option.bind_some, w.wake?_eq,
    inside, Option.map_some, if_pos ended, Option.isSome_some]

/-- A run that has not ended can make a move of its own at every instant at which none of its
calls is still to be over, by cases on what it waits for.
-/
theorem exists_possible
    (ended : ∀ w ∈ workers, ∀ wake, w.wake? = some wake → wake ≤ now)
    : ∃ move : Move,
        move.run?.isSome = true
        ∧ ((solo (some (Run.manned start profile workers lowered)) flag o).step? surroundings now
            move).isSome = true := by
  cases lowered with
  | true =>
      refine ⟨.retire 0, rfl, ?_⟩
      have lowered : (Run.manned start profile workers true).lowered = true := rfl
      simp [step?, run?_solo, lowered]
  | false =>
      by_cases spent : ∀ w ∈ workers, w.live = false
      · refine ⟨.lower 0, rfl, ?_⟩
        have exhausted : (Run.manned start profile workers false).exhausted = true := by
          simpa [Run.exhausted, Run.manned, Run.workers] using spent
        have up : (Run.manned start profile workers false).lowered = false := rfl
        simp [step?, run?_solo, exhausted, up]
      · obtain ⟨w, member, live⟩ : ∃ w ∈ workers, w.live = true := by simpa using spent
        obtain ⟨index, found⟩ := List.mem_iff_getElem?.mp member
        cases activity : w.activity with
        | looking => exact ⟨.look 0 index, rfl, look_possible found activity⟩
        | calling call startedAt =>
            have inside : w.call? = some (call, startedAt) := by
              simp only [Worker.call?, activity]
            have last := ended w member _ (by rw [w.wake?_eq, inside]; rfl)
            exact ⟨.land 0 index, rfl, land_possible found inside last⟩
        | done => simp [Worker.live, activity] at live

/-- Nor does a run move that has broken off. -/
theorem step?_unmanned (own : move.run?.isSome = true)
    : (solo (some (Run.unmanned profile)) flag o).step? surroundings now move = none := by
  have found (number : Nat)
      : (solo (some (Run.unmanned profile)) flag o).control.run? number
        = if number = 0 then some (Run.unmanned profile) else none := by
    by_cases same : number = 0
    · simp [solo, Bench.solo, control, Control.run?, Run.unmanned, same]
    · simp [solo, Bench.solo, control, Control.run?, Run.unmanned, same, Ne.symm same]
  cases move with
  | ask | proceed | drop => cases own
  | launch run | lower run | retire run =>
      simp only [step?, found]
      split <;> rfl
  | look run index | land run index =>
      simp only [step?, worker?, found]
      split <;> rfl

omit start profile lowered flag o surroundings now in
/-- All calls that workers are inside are over from some instant on, by induction on the
workers.
-/
theorem exists_over (workers : List Worker)
    : ∃ since : Duration, ∀ w ∈ workers, ∀ wake, w.wake? = some wake → wake ≤ since := by
  induction workers with
  | nil => exact ⟨.zero, nofun⟩
  | cons w rest ih =>
      obtain ⟨since, others⟩ := ih
      refine ⟨since + (w.wake?.getD .zero), List.forall_mem_cons.mpr ⟨?_, ?_⟩⟩
      · intro wake calling
        simp only [calling, Option.getD_some, Duration.le_iff, Duration.nanos_add]
        omega
      · intro v member wake calling
        have early := others v member wake calling
        simp only [Duration.le_iff, Duration.nanos_add] at early ⊢
        omega

end Solo

end Floor

end CallWatch.Load
