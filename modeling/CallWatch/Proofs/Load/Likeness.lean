import CallWatch.Load.Bench
import CallWatch.Proofs.Reporter.Shift

/-! What load does not look at.
No run looks at what has been observed, as long as its calls are taken or not as before, and
nobody but the task that has the lock at which task that is. So benches that differ in these
alone go on alike: the same workers make the same calls, and these leave the same records.
-/

namespace CallWatch

-----------------------------------------------------------------------------------------
-- Access records
-----------------------------------------------------------------------------------------

namespace Observatory

/-- The access records that have been written. -/
def accesses (o : Observatory) : List Record :=
  o.journal.toList.filter fun record => record.kind = .access

/-- Two observatories have got on in step: both take what they took, and have written the same
access records since.
-/
structure InStep (o p next other : Observatory) : Prop where
  first : next.takes = o.takes
  second : other.takes = p.takes
  wrote
    : ∃ written, next.accesses = o.accesses ++ written ∧ other.accesses = p.accesses ++ written

variable {o p next other last final : Observatory}

/-- Observatories that have written none are in step. -/
theorem InStep.of_silent (first : next.takes = o.takes) (second : other.takes = p.takes)
    (silent : next.accesses = o.accesses) (silentToo : other.accesses = p.accesses)
    : InStep o p next other :=
  ⟨first, second, [], by simpa using silent, by simpa using silentToo⟩

theorem InStep.refl
    : InStep o p o p :=
  .of_silent rfl rfl rfl rfl

theorem InStep.trans (early : InStep o p next other) (late : InStep next other last final)
    : InStep o p last final := by
  obtain ⟨written, one, two⟩ := early.wrote
  obtain ⟨more, three, four⟩ := late.wrote
  refine ⟨late.first.trans early.first, late.second.trans early.second, written ++ more, ?_, ?_⟩
  · rw [three, one, List.append_assoc]
  · rw [four, two, List.append_assoc]

/-- Observatories that take the same go on to do so. -/
theorem InStep.taking (inStep : InStep o p next other) (same : p.takes = o.takes)
    : other.takes = next.takes :=
  inStep.second.trans (same.trans inStep.first.symm)

theorem accesses_complete (o : Observatory) (call : Call) (outcome : Outcome)
    (elapsed : Duration) (now : Time.Instant)
    : (o.complete call outcome elapsed now).accesses
      = o.accesses
        ++ if o.takes call then [.access (call.record outcome elapsed now)] else [] := by
  simp only [accesses, journal_complete]
  split <;> simp [Record.kind]

/-- A call that both complete leaves the same record, or none where both do not take it. -/
theorem inStep_complete (same : p.takes = o.takes) (call : Call) (outcome : Outcome)
    (elapsed : Duration) (now : Time.Instant)
    : InStep o p (o.complete call outcome elapsed now) (p.complete call outcome elapsed now) := by
  refine ⟨takes_complete, takes_complete, _, accesses_complete o call outcome elapsed now, ?_⟩
  rw [accesses_complete, same]

end Observatory

/-- A report writes no access record. -/
theorem Reporter.accesses_report (wall : WallClock) (now : Duration) (o : Observatory)
    : (report wall now o).2.accesses = o.accesses := by
  unfold report
  split
  · simp only [Observatory.emit, Record.ofSnapshot?]
    split
    · next found =>
      split at found
      · cases found
      · cases found
        simp [Observatory.accesses, Record.kind]
    · rfl
  · rfl

/-- A report changes nothing about what is taken. -/
theorem Reporter.takes_report (wall : WallClock) (now : Duration) (o : Observatory)
    : (report wall now o).2.takes = o.takes := by
  unfold report
  split
  · exact Observatory.takes_emit _
  · rfl

/-- A reporter that is woken writes no access record, and moves on as with any other
observatory; by induction along its moves.
-/
theorem Reporter.Shift.settle_silent (wall : WallClock) (now : Duration) (l : Loop)
    (o : Observatory)
    : (settle wall now l o).2.accesses = o.accesses
      ∧ (settle wall now l o).2.takes = o.takes
      ∧ ∀ p, (settle wall now l p).1 = (settle wall now l o).1 := by
  induction l, o using settle.induct wall now with
  | case1 l o fired next moved ih =>
      rw [settle_signal o moved]
      refine ⟨ih.1, ih.2.1, fun p => ?_⟩
      rw [settle_signal p moved]
      exact ih.2.2 p
  | case2 l o silent fired next moved ih =>
      rw [settle_tick o silent moved]
      refine ⟨ih.1.trans (accesses_report wall now o), ih.2.1.trans (takes_report wall now o),
        fun p => ?_⟩
      rw [settle_tick p silent moved]
      exact ih.2.2 _
  | case3 l o silent early =>
      rw [settle_stuck o silent early]
      refine ⟨rfl, rfl, fun p => ?_⟩
      rw [settle_stuck p silent early]

namespace Load

-----------------------------------------------------------------------------------------
-- Workers and runs
-----------------------------------------------------------------------------------------

section Advance
variable (surroundings : Surroundings) (terms : Terms) (flag : Bool) (now : Duration)
  (due : Worker → Bool) (o p : Observatory) (same : p.takes = o.takes)

include same

/-- A worker does the same whatever has been observed. -/
theorem Worker.advance_inStep (w : Worker)
    : (w.advance surroundings terms flag now p).1 = (w.advance surroundings terms flag now o).1
      ∧ Observatory.InStep o p (w.advance surroundings terms flag now o).2
          (w.advance surroundings terms flag now p).2 := by
  simp only [advance, land]
  split
  · split
    · exact ⟨by rw [same], Observatory.inStep_complete same _ _ _ _⟩
    · exact ⟨rfl, .refl⟩
  · exact ⟨rfl, .refl⟩

/-- So do the workers of a run one after the other, by induction on them. -/
theorem Run.advanceWorkers_inStep (workers : List Worker)
    : (advanceWorkers surroundings terms flag now due workers p).1
        = (advanceWorkers surroundings terms flag now due workers o).1
      ∧ Observatory.InStep o p (advanceWorkers surroundings terms flag now due workers o).2
          (advanceWorkers surroundings terms flag now due workers p).2 := by
  induction workers generalizing o p with
  | nil => exact ⟨rfl, .refl⟩
  | cons w rest ih =>
      simp only [advanceWorkers]
      split
      · obtain ⟨alike, first⟩ := w.advance_inStep surroundings terms flag now o p same
        obtain ⟨others, later⟩ := ih (w.advance surroundings terms flag now o).2
          (w.advance surroundings terms flag now p).2 (first.taking same)
        exact ⟨congr (congrArg _ alike) others, first.trans later⟩
      · obtain ⟨others, later⟩ := ih o p same
        exact ⟨congrArg _ others, later⟩

theorem Run.advance_inStep (r : Run)
    : (r.advance surroundings flag now due p).1 = (r.advance surroundings flag now due o).1
      ∧ Observatory.InStep o p (r.advance surroundings flag now due o).2
          (r.advance surroundings flag now due p).2 := by
  unfold advance
  split
  · exact ⟨rfl, .refl⟩
  · next terms workers _ =>
    obtain ⟨alike, inStep⟩ :=
      advanceWorkers_inStep surroundings terms flag now due o p same workers
    exact ⟨by simp only [alike], inStep⟩

/-- So do all runs, by induction on them. -/
theorem Bench.advanceRuns_inStep (runs : List Run)
    : (advanceRuns surroundings flag now due runs p).1
        = (advanceRuns surroundings flag now due runs o).1
      ∧ Observatory.InStep o p (advanceRuns surroundings flag now due runs o).2
          (advanceRuns surroundings flag now due runs p).2 := by
  induction runs generalizing o p with
  | nil => exact ⟨rfl, .refl⟩
  | cons r rest ih =>
      obtain ⟨alike, first⟩ := r.advance_inStep surroundings flag now due o p same
      obtain ⟨others, later⟩ := ih (r.advance surroundings flag now due o).2
        (r.advance surroundings flag now due p).2 (first.taking same)
      simp only [advanceRuns]
      exact ⟨congr (congrArg _ alike) others, first.trans later⟩

end Advance

-----------------------------------------------------------------------------------------
-- The lock
-----------------------------------------------------------------------------------------

/-- The shared state is the same, but another task may have the lock. -/
structure Control.Like (c d : Control) : Prop where
  same : d = { c with lock := d.lock }
  locked : d.lock.isSome = c.lock.isSome

namespace Control
variable {c d : Control}

theorem Like.refl (c : Control)
    : Like c c :=
  ⟨rfl, rfl⟩

/-- Runs end whoever has the lock, by induction on those that end. -/
theorem finishAll_lock (gone : List Run) (c : Control) (lock : Option Nat)
    : gone.foldl (fun c r => c.finish r.number) { c with lock }
      = { gone.foldl (fun c r => c.finish r.number) c with lock } := by
  induction gone generalizing c with
  | nil => rfl
  | cons r rest ih => exact ih (c.finish r.number)

/-- The lock stays with whoever has it while runs end, by induction on these. -/
theorem lock_finishAll (gone : List Run) (c : Control)
    : (gone.foldl (fun c r => c.finish r.number) c).lock = c.lock := by
  induction gone generalizing c with
  | nil => rfl
  | cons r rest ih => exact ih (c.finish r.number)

/-- A step of a task is the same in both states, or impossible in both; by cases on the stages. -/
theorem Like.step? (like : Like c d) (i j : Nat) (task : Task)
    : (task.step? i c = none ∧ task.step? j d = none)
      ∨ ∃ progress next other,
          task.step? i c = some (progress, next)
          ∧ task.step? j d = some (progress, other)
          ∧ Like next other := by
  obtain ⟨same, locked⟩ := like
  rw [same]
  generalize d.lock = lock at locked
  cases task with
  | startQueued | stopQueued =>
      simp only [Task.step?, locked]
      split
      · exact .inl ⟨rfl, rfl⟩
      · exact .inr ⟨_, _, _, rfl, rfl, rfl, rfl⟩
  | startLocked | stopLowered =>
      simp only [Task.step?]
      split <;> exact .inr ⟨_, _, _, rfl, rfl, rfl, by simp [unlock, locked]⟩
  | stopJoining wasUp run =>
      have ended : ({ c with lock } : Control).ended run = c.ended run := rfl
      simp only [Task.step?, ended]
      split
      · exact .inr ⟨_, _, _, rfl, rfl, rfl, rfl⟩
      · exact .inl ⟨rfl, rfl⟩
  | startRaised | startSpawned | stopLocked =>
      exact .inr ⟨_, _, _, rfl, rfl, rfl, by simp [locked]⟩

/-- So does a task that moves as far as it goes, by induction on the steps. -/
theorem Like.run (like : Like c d) (i j fuel : Nat) (task : Task)
    : (task.run j fuel d).1 = (task.run i fuel c).1
      ∧ Like (task.run i fuel c).2 (task.run j fuel d).2 := by
  induction fuel generalizing task c d with
  | zero => exact ⟨rfl, like⟩
  | succ fuel ih =>
      rcases like.step? i j task with
        ⟨first, second⟩ | ⟨progress, next, other, first, second, after⟩
      · simp only [Task.run, first, second]
        exact ⟨trivial, like⟩
      · simp only [Task.run, first, second]
        cases progress with
        | answer => exact ⟨rfl, after⟩
        | stage task => exact ih after task

theorem Like.drop (like : Like c d) (task : Task)
    : Like (task.drop c) (task.drop d) := by
  cases task with
  | stopJoining wasUp run =>
      refine ⟨?_, rfl⟩
      rw [like.same]
      rfl
  | startQueued | startLocked | startRaised | startSpawned | stopQueued | stopLocked
  | stopLowered => exact like

theorem Like.finishExhausted (like : Like c d)
    : Like c.finishExhausted d.finishExhausted := by
  obtain ⟨same, locked⟩ := like
  rw [same]
  generalize d.lock = lock at locked
  simp only [Control.finishExhausted, finishAll_lock]
  exact ⟨rfl, by simpa only [lock_finishAll] using locked⟩

end Control

-----------------------------------------------------------------------------------------
-- The bench
-----------------------------------------------------------------------------------------

namespace Bench
variable {b d : Bench}

/-- Load control is the same on both benches, and both take the same. -/
structure Same (b d : Bench) : Prop where
  control : d.control = b.control
  taking : d.observatory.takes = b.observatory.takes

/-- What the runs do to load control does not depend on what has been observed. -/
theorem Same.advance (same : Same b d) (surroundings : Surroundings) (now : Duration)
    (due : Worker → Bool)
    : Same (b.advance surroundings now due) (d.advance surroundings now due) := by
  have runs := advanceRuns_inStep surroundings b.control.flag now due b.observatory
    d.observatory same.taking b.control.runs
  constructor
  · simp only [Bench.advance, same.control, runs.1]
  · simp only [Bench.advance, same.control]
    exact runs.2.taking same.taking

theorem Same.advanceBefore (same : Same b d) (surroundings : Surroundings)
    (now limit : Duration)
    : Same (b.advanceBefore surroundings now limit) (d.advanceBefore surroundings now limit) :=
  same.advance surroundings now _

/-- Another observatory that takes the same does not matter. -/
theorem Same.withObservatory (same : Same b d) {o : Observatory}
    (taking : o.takes = b.observatory.takes)
    : Same { b with observatory := o } d :=
  ⟨same.control, same.taking.trans taking.symm⟩

theorem Same.settle (same : Same b d) (surroundings : Surroundings) (now : Duration)
    : Same (b.settle surroundings now) (d.settle surroundings now) := by
  have launched : Same { b with control := b.control.launch now }
      { d with control := d.control.launch now } :=
    ⟨congrArg (Control.launch now) same.control, same.taking⟩
  have advanced := launched.advance surroundings now fun _ => true
  exact ⟨congrArg Control.finishExhausted advanced.control, advanced.taking⟩

/-- What the due workers do is the same on benches that are alike. -/
theorem advance_like (surroundings : Surroundings) (now : Duration) (due : Worker → Bool)
    (like : b.control.Like d.control) (taking : d.observatory.takes = b.observatory.takes)
    : (b.advance surroundings now due).control.Like (d.advance surroundings now due).control
      ∧ Observatory.InStep b.observatory d.observatory
          (b.advance surroundings now due).observatory
          (d.advance surroundings now due).observatory := by
  obtain ⟨c, o⟩ := b
  obtain ⟨other, p⟩ := d
  obtain ⟨same, locked⟩ := like
  dsimp only at same locked taking ⊢
  rw [same]
  obtain ⟨runs, inStep⟩ := advanceRuns_inStep surroundings c.flag now due o p taking c.runs
  exact ⟨⟨by simp only [advance, runs], locked⟩, inStep⟩

theorem advanceBefore_like (surroundings : Surroundings) (now limit : Duration)
    (like : b.control.Like d.control) (taking : d.observatory.takes = b.observatory.takes)
    : (b.advanceBefore surroundings now limit).control.Like
          (d.advanceBefore surroundings now limit).control
      ∧ Observatory.InStep b.observatory d.observatory
          (b.advanceBefore surroundings now limit).observatory
          (d.advanceBefore surroundings now limit).observatory :=
  advance_like surroundings now _ like taking

/-- So is all that happens at an instant. -/
theorem settle_like (surroundings : Surroundings) (now : Duration)
    (like : b.control.Like d.control) (taking : d.observatory.takes = b.observatory.takes)
    : (b.settle surroundings now).control.Like (d.settle surroundings now).control
      ∧ Observatory.InStep b.observatory d.observatory
          (b.settle surroundings now).observatory (d.settle surroundings now).observatory := by
  have launched : (b.control.launch now).Like (d.control.launch now) := by
    refine ⟨?_, like.locked⟩
    rw [like.same]
    rfl
  obtain ⟨advanced, inStep⟩ := advance_like surroundings now (fun _ => true)
    (b := { b with control := b.control.launch now })
    (d := { d with control := d.control.launch now }) launched taking
  exact ⟨advanced.finishExhausted, inStep⟩

end Bench

end Load

end CallWatch
