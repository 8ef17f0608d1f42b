import CallWatch.Proofs.Load.Draws
import CallWatch.Proofs.Load.Instant
import CallWatch.Proofs.Load.Moves

/-! A bench at rest.
When all has happened that happens at an instant, every worker is done or inside a call that is
still to be over, so no run can move before the deadline of the bench.
-/

namespace CallWatch

-----------------------------------------------------------------------------------------
-- The earliest of some deadlines
-----------------------------------------------------------------------------------------

namespace Duration
variable {α : Type} {deadline? : α → Option Duration} {xs : List α}
  {first? second? : Option Duration} {earliest met : Duration}

/-- The earlier of two deadlines is one of them. -/
theorem eq_or_eq_of_earlier? (h : earlier? first? second? = some earliest)
    : first? = some earliest ∨ second? = some earliest := by
  cases first? with
  | none => exact .inr h
  | some a =>
      cases second? with
      | none => exact .inl h
      | some b =>
          simp only [earlier?] at h
          split at h
          · exact .inr h
          · exact .inl h

/-- It is not after any of them. -/
theorem exists_earlier? (h : first? = some met ∨ second? = some met)
    : ∃ earliest, earlier? first? second? = some earliest ∧ earliest ≤ met := by
  rcases h with rfl | rfl
  · cases second? with
    | none => exact ⟨met, rfl, Nat.le_refl _⟩
    | some b =>
        simp only [earlier?]
        split
        · next before => exact ⟨b, rfl, Nat.le_of_lt before⟩
        · exact ⟨met, rfl, Nat.le_refl _⟩
  · cases first? with
    | none => exact ⟨met, rfl, Nat.le_refl _⟩
    | some a =>
        simp only [earlier?]
        split
        · exact ⟨met, rfl, Nat.le_refl _⟩
        · next after => exact ⟨a, rfl, Nat.le_of_not_lt after⟩

/-- What a fold has come to is a deadline that it has met, by induction on the list. -/
theorem mem_of_foldl_earlier?
    (folded
      : xs.foldl (fun sofar x => earlier? sofar (deadline? x)) first? = some earliest)
    : first? = some earliest ∨ ∃ x ∈ xs, deadline? x = some earliest := by
  induction xs generalizing first? with
  | nil => exact .inl folded
  | cons x rest ih =>
      rcases ih folded with one | ⟨y, member, at_⟩
      · exact (eq_or_eq_of_earlier? one).imp_right fun at_ => ⟨x, .head _, at_⟩
      · exact .inr ⟨y, .tail _ member, at_⟩

/-- No deadline that a fold has met is before what it has come to, by induction on the list. -/
theorem exists_foldl_earlier? (h : first? = some met ∨ ∃ x ∈ xs, deadline? x = some met)
    : ∃ earliest,
        xs.foldl (fun sofar x => earlier? sofar (deadline? x)) first? = some earliest
        ∧ earliest ≤ met := by
  induction xs generalizing first? met with
  | nil =>
      rcases h with rfl | ⟨_, member, _⟩
      · exact ⟨met, rfl, Nat.le_refl _⟩
      · cases member
  | cons x rest ih =>
      have inHead (one : first? = some met ∨ deadline? x = some met)
          : ∃ earliest,
              (x :: rest).foldl (fun sofar x => earlier? sofar (deadline? x)) first?
                = some earliest
              ∧ earliest ≤ met := by
        obtain ⟨sofar, folds, before⟩ := exists_earlier? one
        obtain ⟨earliest, folded, first⟩ := ih (.inl folds)
        exact ⟨earliest, folded, Nat.le_trans first before⟩
      rcases h with begun | ⟨y, member, at_⟩
      · exact inHead (.inl begun)
      · cases member with
        | head => exact inHead (.inr at_)
        | tail _ later => exact ih (.inr ⟨y, later, at_⟩)

end Duration

namespace Load

-----------------------------------------------------------------------------------------
-- Workers
-----------------------------------------------------------------------------------------

/-- A worker rests: it does not look, and a call that it is inside is still to be over. -/
structure Worker.Rests (now : Duration) (w : Worker) : Prop where
  still : w.activity ≠ .looking
  early : ∀ wake, w.wake? = some wake → now < wake

/-- A call takes some time, so it is not over at the instant at which it begins. -/
theorem lt_wake_of_drawn {errorPct : Nat} {call : SyntheticCall} (drawn : call.Drawn errorPct)
    (now : Duration)
    : now < (now + call.latency).wake := by
  have shortest : shortestCall.nanos ≤ call.latency.nanos := drawn.shortest
  have positive : 0 < shortestCall.nanos := by decide
  have ended : (now + call.latency).nanos ≤ (now + call.latency).wake.nanos :=
    Duration.le_wake _
  rw [Duration.nanos_add] at ended
  rw [Duration.lt_iff]
  omega

/-- A worker rests once it has looked. -/
theorem Worker.rests_look {now : Duration} {w : Worker}
    (early : ∀ wake, w.wake? = some wake → now < wake) (terms : Terms) (flag : Bool)
    : (w.look terms flag now).Rests now := by
  cases activity : w.activity with
  | looking =>
      simp only [look, activity]
      split
      · refine ⟨by simp, ?_⟩
        rintro _ ⟨rfl⟩
        exact lt_wake_of_drawn (draw_drawn terms.errorPct w.stream) now
      · exact ⟨by simp, by simp [wake?]⟩
  | calling | done =>
      simp only [look, activity]
      exact ⟨by simp [activity], early⟩

/-- It rests when it has done all that it does at an instant. -/
theorem Worker.rests_advance (surroundings : Surroundings) (terms : Terms) (flag : Bool)
    (now : Duration) (w : Worker) (o : Observatory)
    : (w.advance surroundings terms flag now o).1.Rests now := by
  refine rests_look (fun wake calling => ?_) terms flag
  cases activity : w.activity with
  | calling call startedAt =>
      by_cases ended : (startedAt + call.latency).wake ≤ now
      · simp only [activity, if_pos ended, wake?] at calling
        split at calling
        · next call startedAt inside => split at inside <;> cases inside
        · cases calling
      · simp only [activity, if_neg ended, wake?, Option.some.injEq] at calling
        exact calling ▸ Nat.lt_of_not_le ended
  | looking | done =>
      simp only [activity, wake?] at calling
      cases calling

theorem Run.rests_advanceWorkers (surroundings : Surroundings) (terms : Terms) (flag : Bool)
    (now : Duration) (workers : List Worker) (o : Observatory)
    : ∀ w ∈ (advanceWorkers surroundings terms flag now (fun _ => true) workers o).1,
        w.Rests now := by
  induction workers generalizing o with
  | nil => exact nofun
  | cons w rest ih =>
      simp only [advanceWorkers, if_true]
      exact List.forall_mem_cons.mpr
        ⟨w.rests_advance surroundings terms flag now o, ih _⟩

-----------------------------------------------------------------------------------------
-- Benches
-----------------------------------------------------------------------------------------

/-- A run does not wait for its launch, and its workers rest. -/
structure Run.Rests (now : Duration) (r : Run) : Prop where
  launched : r.waiting = false
  workers : ∀ w ∈ r.workers, w.Rests now

/-- A bench is at rest: its runs are in order, none of them is about to end, and their workers
rest.
-/
structure Bench.Rests (now : Duration) (b : Bench) : Prop where
  orderly : b.control.Orderly
  busy : ∀ r ∈ b.control.runs, r.exhausted = false
  runs : ∀ r ∈ b.control.runs, r.Rests now

namespace Bench
variable {surroundings : Surroundings} {now : Duration} {b : Bench}

/-- Runs that do not wait for their launch rest when they have done all that they do at an
instant, by induction on the runs.
-/
theorem rests_advanceRuns (flag : Bool) (runs : List Run) (o : Observatory)
    (launched : ∀ r ∈ runs, r.waiting = false)
    : ∀ r ∈ (advanceRuns surroundings flag now (fun _ => true) runs o).1, r.Rests now := by
  induction runs generalizing o with
  | nil => exact nofun
  | cons r rest ih =>
      obtain ⟨first, others⟩ := List.forall_mem_cons.mp launched
      refine List.forall_mem_cons.mpr ⟨?_, ih _ others⟩
      cases manned : r.launched with
      | none => exact ⟨first, by simp [Run.workers, manned]⟩
      | some entry =>
          obtain ⟨terms, workers⟩ := entry
          exact ⟨rfl, Run.rests_advanceWorkers surroundings terms flag now workers o⟩

/-- The runs that end at an instant are gone, by induction on them. -/
theorem runs_finishAll (gone : List Run) (c : Control)
    : (gone.foldl (fun c r => c.finish r.number) c).runs
      = c.runs.filter fun r => gone.all fun s => r.number ≠ s.number := by
  induction gone generalizing c with
  | nil => simp
  | cons r rest ih =>
      simp only [List.foldl_cons, ih, Control.runs_finish, List.filter_filter, List.all_cons,
        Bool.and_comm]

/-- A bench is at rest when all has happened that happens at an instant. -/
theorem rests_settle (orderly : b.control.Orderly) (surroundings : Surroundings)
    (now : Duration)
    : (b.settle surroundings now).Rests now := by
  let advanced : Bench :=
    { b with control := b.control.launch now }.advance surroundings now fun _ => true
  have rests : ∀ r ∈ advanced.control.runs, r.Rests now := by
    refine rests_advanceRuns b.control.flag _ b.observatory fun r member => ?_
    obtain ⟨s, -, rfl⟩ := List.mem_map.mp member
    exact s.waiting_launchWith .own now
  have kept : (b.settle surroundings now).control.runs
      = advanced.control.runs.filter fun r =>
          (advanced.control.runs.filter Run.exhausted).all fun s => r.number ≠ s.number :=
    runs_finishAll _ _
  constructor
  · exact (Floor.moves_settle surroundings now ⟨b, []⟩ orderly).2
  · intro r member
    rw [kept, List.mem_filter] at member
    by_contra exhausted
    have apart := List.all_eq_true.mp member.2 r
      (List.mem_filter.mpr ⟨member.1, by simpa using exhausted⟩)
    simp at apart
  · intro r member
    rw [kept, List.mem_filter] at member
    exact rests r member.1

-----------------------------------------------------------------------------------------
-- The deadline of a bench
-----------------------------------------------------------------------------------------

/-- The deadline of a bench is the end of a call under way. -/
theorem exists_wake_of_wake? {deadline : Duration} (due : b.wake? = some deadline)
    : ∃ r ∈ b.control.runs, ∃ w ∈ r.workers, w.wake? = some deadline := by
  rcases Duration.mem_of_foldl_earlier? due with none | ⟨r, member, of⟩
  · cases none
  · rcases Duration.mem_of_foldl_earlier? of with none | ⟨w, staff, calling⟩
    · cases none
    · exact ⟨r, member, w, staff, calling⟩

/-- No call under way is over before the deadline of the bench. -/
theorem exists_wake?_le {r : Run} {w : Worker} {wake : Duration} (member : r ∈ b.control.runs)
    (staff : w ∈ r.workers) (calling : w.wake? = some wake)
    : ∃ deadline, b.wake? = some deadline ∧ deadline ≤ wake := by
  obtain ⟨first, ofRun, before⟩ : ∃ first, r.wake? = some first ∧ first ≤ wake :=
    Duration.exists_foldl_earlier? (.inr ⟨w, staff, calling⟩)
  obtain ⟨deadline, due, earlier⟩ : ∃ deadline, b.wake? = some deadline ∧ deadline ≤ first :=
    Duration.exists_foldl_earlier? (.inr ⟨r, member, ofRun⟩)
  exact ⟨deadline, due, Nat.le_trans earlier before⟩

/-- Calls end at whole milliseconds, so that is when the timer of a bench fires; and the timer
of a bench at rest is still to fire.
-/
theorem Rests.wake_of_wake? (rests : b.Rests now) {deadline : Duration}
    (due : b.wake? = some deadline)
    : deadline.wake = deadline ∧ now < deadline := by
  obtain ⟨r, member, w, staff, calling⟩ := exists_wake_of_wake? due
  refine ⟨?_, ((rests.runs r member).workers w staff).early deadline calling⟩
  simp only [Worker.wake?] at calling
  split at calling
  · cases calling
    exact Duration.wake_wake _
  · cases calling

/-- No run can move before the deadline of a bench at rest, by cases on the move. -/
theorem Rests.step?_eq_none (rests : b.Rests now) {instant : Duration}
    (early : ∀ deadline, b.wake? = some deadline → instant < deadline) {move : Move}
    (own : move.run?.isSome = true) (requests : List Standing)
    : (Floor.mk b requests).step? surroundings instant move = none := by
  rw [Option.eq_none_iff_forall_ne_some]
  intro g moved
  cases move with
  | ask | proceed | drop => cases own
  | launch run =>
      obtain ⟨r, member, -, waiting, -⟩ := Floor.step?_launch moved
      have launched := (rests.runs r member).launched
      rw [waiting] at launched
      cases launched
  | look run index =>
      obtain ⟨⟨terms, w⟩, found, moved⟩ := Option.bind_eq_some_iff.mp moved
      obtain ⟨r, member, -, staff⟩ := Floor.worker?_eq_some found
      dsimp only at moved
      split at moved
      · next looking => exact ((rests.runs r member).workers w staff).still looking
      · cases moved
  | land run index =>
      obtain ⟨⟨terms, w⟩, found, moved⟩ := Option.bind_eq_some_iff.mp moved
      obtain ⟨r, member, -, staff⟩ := Floor.worker?_eq_some found
      dsimp only at moved
      split at moved
      · next wake calling =>
        obtain ⟨deadline, due, before⟩ := exists_wake?_le member staff calling
        split at moved
        · next ended =>
          exact Nat.lt_irrefl _
            (Nat.lt_of_lt_of_le (early deadline due) (Nat.le_trans before ended))
        · cases moved
      · cases moved
  | lower run =>
      obtain ⟨r, member, -, exhausted, -⟩ := Floor.step?_lower moved
      rw [rests.busy r member] at exhausted
      cases exhausted
  | retire run =>
      obtain ⟨r, member, -, lowered, -⟩ := Floor.step?_retire moved
      rw [rests.orderly.up r member] at lowered
      cases lowered

end Bench

end Load

end CallWatch
