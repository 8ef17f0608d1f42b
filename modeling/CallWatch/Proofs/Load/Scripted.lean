import CallWatch.Proofs.Load.Instant
import CallWatch.Proofs.Load.Standing
import CallWatch.Proofs.Observation.Entries
import Mathlib.Data.List.GetD

/-! Load runs call the methods of their script and no others.
Every call that a worker is inside has been drawn from the script, so whatever the bench does,
the observatory takes down no other calls.
-/

namespace CallWatch

theorem Random.below_lt {width : Width} {n : Nat} (positive : 0 < n) (s : Stream)
    : (below width n s).1 < n := by
  unfold below
  exact drawWithin_lt positive _ s

namespace Load

/-- The names of the script are counted as they are. -/
theorem normalizeMethod_of_scripted
    : ∀ name ∈ methods, normalizeMethod name = name := by
  decide

/-- A call is drawn from the script: the index of its method lies inside. -/
theorem draw_method_mem (errorPct : Nat) (s : Random.Stream)
    : (draw errorPct s).1.method ∈ methods := by
  have inside : (Random.below .long methods.length s).1 < methods.length :=
    Random.below_lt (by decide) s
  rw [draw_method, List.getD_eq_getElem _ _ inside]
  exact List.getElem_mem inside

-----------------------------------------------------------------------------------------
-- Workers and runs
-----------------------------------------------------------------------------------------

/-- A call that the worker is inside is one of the script. -/
def Worker.Scripted (w : Worker) : Prop :=
  ∀ call startedAt, w.activity = .calling call startedAt → call.method ∈ methods

def Run.Scripted (r : Run) : Prop :=
  ∀ w ∈ r.workers, w.Scripted

def Control.Scripted (c : Control) : Prop :=
  ∀ r ∈ c.runs, r.Scripted

section Advance
variable (surroundings : Surroundings) (terms : Terms) (flag : Bool) (now : Duration)
  (due : Worker → Bool)

/-- Calls of the script alone have been taken down. -/
abbrev EntersScripted (o next : Observatory) : Prop :=
  o.Enters (· ∈ methods) next

theorem Worker.Scripted.look {w : Worker} (scripted : w.Scripted)
    : (w.look terms flag now).Scripted := by
  unfold Worker.look
  split
  · split
    · intro call startedAt calling
      cases calling
      exact draw_method_mem terms.errorPct w.stream
    · intro call startedAt calling
      cases calling
  · exact scripted

theorem Worker.Scripted.land {w : Worker} (scripted : w.Scripted) (o : Observatory)
    : (w.land surroundings now o).1.Scripted
      ∧ EntersScripted o (w.land surroundings now o).2 := by
  unfold Worker.land
  split
  · next call startedAt calling =>
    split
    · refine ⟨fun _ _ called => ?_, Observatory.enters_complete _ _ _ ?_⟩
      · dsimp only at called
        split at called <;> cases called
      · have drawn := scripted call startedAt calling
        have name : (w.observed surroundings call).name = call.method :=
          normalizeMethod_of_scripted call.method drawn
        exact name ▸ drawn
    · exact ⟨scripted, .refl⟩
  · exact ⟨scripted, .refl⟩

theorem Worker.Scripted.advance {w : Worker} (scripted : w.Scripted) (o : Observatory)
    : (w.advance surroundings terms flag now o).1.Scripted
      ∧ EntersScripted o (w.advance surroundings terms flag now o).2 := by
  have landed := scripted.land surroundings now o
  unfold Worker.advance
  generalize w.land surroundings now o = result at landed ⊢
  exact ⟨landed.1.look terms flag now, landed.2⟩

/-- The workers of a run one after the other, by induction on them. -/
theorem Run.scripted_advanceWorkers (workers : List Worker) (o : Observatory)
    (scripted : ∀ w ∈ workers, w.Scripted)
    : (∀ w ∈ (advanceWorkers surroundings terms flag now due workers o).1, w.Scripted)
      ∧ EntersScripted o (advanceWorkers surroundings terms flag now due workers o).2 := by
  induction workers generalizing o with
  | nil => exact ⟨scripted, .refl⟩
  | cons w rest ih =>
      rw [List.forall_mem_cons] at scripted
      simp only [advanceWorkers]
      split
      · obtain ⟨first, enters⟩ := scripted.1.advance surroundings terms flag now o
        obtain ⟨others, entersRest⟩ := ih (w.advance surroundings terms flag now o).2 scripted.2
        exact ⟨List.forall_mem_cons.mpr ⟨first, others⟩, enters.trans entersRest⟩
      · obtain ⟨others, entersRest⟩ := ih o scripted.2
        exact ⟨List.forall_mem_cons.mpr ⟨scripted.1, others⟩, entersRest⟩

theorem Run.Scripted.advance {r : Run} (scripted : r.Scripted) (o : Observatory)
    : (r.advance surroundings flag now due o).1.Scripted
      ∧ EntersScripted o (r.advance surroundings flag now due o).2 := by
  cases launched : r.launched with
  | none =>
      simp only [Run.advance, launched]
      exact ⟨scripted, .refl⟩
  | some entry =>
      obtain ⟨terms, workers⟩ := entry
      simp only [Run.Scripted, Run.workers, launched] at scripted
      have advanced :=
        Run.scripted_advanceWorkers surroundings terms flag now due workers o scripted
      simpa only [Run.advance, launched, Run.Scripted, Run.workers] using advanced

theorem Run.Scripted.launch {r : Run} (scripted : r.Scripted)
    : (r.launch now).Scripted := by
  intro w member call startedAt calling
  rcases r.mem_workers_launch member with held | idle
  · exact scripted w held call startedAt calling
  · cases idle.symm.trans calling

/-- The runs one after the other, by induction on them. -/
theorem Bench.scripted_advanceRuns (runs : List Run) (o : Observatory)
    (scripted : ∀ r ∈ runs, r.Scripted)
    : (∀ r ∈ (advanceRuns surroundings flag now due runs o).1, r.Scripted)
      ∧ EntersScripted o (advanceRuns surroundings flag now due runs o).2 := by
  induction runs generalizing o with
  | nil => exact ⟨scripted, .refl⟩
  | cons r rest ih =>
      rw [List.forall_mem_cons] at scripted
      obtain ⟨first, enters⟩ := scripted.1.advance surroundings flag now due o
      obtain ⟨others, entersRest⟩ := ih (r.advance surroundings flag now due o).2 scripted.2
      exact ⟨List.forall_mem_cons.mpr ⟨first, others⟩, enters.trans entersRest⟩

-----------------------------------------------------------------------------------------
-- The bench
-----------------------------------------------------------------------------------------

theorem Bench.scripted_advance {b : Bench} (scripted : b.control.Scripted)
    : (b.advance surroundings now due).control.Scripted
      ∧ EntersScripted b.observatory (b.advance surroundings now due).observatory :=
  scripted_advanceRuns surroundings b.control.flag now due b.control.runs b.observatory scripted

theorem Bench.scripted_advanceBefore (limit : Duration) {b : Bench}
    (scripted : b.control.Scripted)
    : (b.advanceBefore surroundings now limit).control.Scripted
      ∧ EntersScripted b.observatory (b.advanceBefore surroundings now limit).observatory :=
  scripted_advance surroundings now _ scripted

theorem Control.Scripted.finishAll {c : Control} (scripted : c.Scripted) (gone : List Run)
    : (gone.foldl (fun c r => c.finish r.number) c).Scripted := by
  induction gone generalizing c with
  | nil => exact scripted
  | cons r rest ih =>
      refine ih fun other member => scripted other ?_
      rw [runs_finish] at member
      exact List.mem_of_mem_filter member

/-- All that the bench does at an instant enters calls of the script alone. -/
theorem Bench.scripted_settle {b : Bench} (scripted : b.control.Scripted)
    : (b.settle surroundings now).control.Scripted
      ∧ EntersScripted b.observatory (b.settle surroundings now).observatory := by
  have launched : (b.control.launch now).Scripted := by
    intro r member
    obtain ⟨before, inRuns, rfl⟩ := List.mem_map.mp member
    exact (scripted before inRuns).launch now
  obtain ⟨advanced, enters⟩ :=
    scripted_advance surroundings now (fun _ => true) (b := ⟨b.control.launch now, b.observatory⟩)
      launched
  exact ⟨advanced.finishAll _, enters⟩

end Advance

-----------------------------------------------------------------------------------------
-- Tasks
-----------------------------------------------------------------------------------------

/-- A step of a task leaves the calls alone: a run that begins has no worker yet. -/
theorem Control.Scripted.step? {c next : Control} (scripted : c.Scripted) {id : Nat} {task : Task}
    {progress : Progress} (moved : task.step? id c = some (progress, next))
    : next.Scripted := by
  rcases Task.step?_runs moved with ⟨fewer, -⟩ | ⟨profile, runs, -⟩
  · exact fun r member => scripted r (fewer.subset member)
  · intro r member
    rcases List.mem_append.mp (runs ▸ member) with old | new
    · exact scripted r old
    · cases List.mem_singleton.mp new
      exact fun w none => nomatch none

/-- So does a task that moves as far as it goes, by induction on the steps. -/
theorem Control.Scripted.run {c : Control} (scripted : c.Scripted) (id fuel : Nat) (task : Task)
    : (task.run id fuel c).2.Scripted := by
  induction fuel generalizing task c with
  | zero => exact scripted
  | succ fuel ih =>
      cases moved : task.step? id c with
      | none => simpa only [Task.run, moved] using scripted
      | some step =>
          obtain ⟨progress, next⟩ := step
          have after := scripted.step? moved
          cases progress with
          | answer => simpa only [Task.run, moved] using after
          | stage later => simpa only [Task.run, moved] using ih after later

theorem Control.Scripted.drop {c : Control} (scripted : c.Scripted) (task : Task)
    : (task.drop c).Scripted :=
  fun r member => scripted r ((task.drop_runs c).subset member)

end Load

end CallWatch
