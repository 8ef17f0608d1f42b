import CallWatch.Proofs.Collector.History
import CallWatch.Proofs.Lists

/-! Threads that share a collector.
A call is recorded in small steps while its thread holds a lock, and a snapshot is taken under
the same lock. However the threads get along, whoever gets the lock finds the collector as the
calls that are done have left it, one after the other. A call that breaks off lets go of the lock
and is done without a trace.
-/

namespace CallWatch

-----------------------------------------------------------------------------------------
-- Small steps
-----------------------------------------------------------------------------------------

namespace Ledger

variable {α : Type} {name : String} {f g : Option α → α}

/-- Two updates of one name are one update, by induction on the entries. -/
theorem updateEntries_updateEntries (entries : List (String × α))
    : updateEntries name g (updateEntries name f entries)
      = updateEntries name (fun value => g (some (f value))) entries := by
  induction entries with
  | nil => simp [updateEntries]
  | cons head rest ih =>
      obtain ⟨key, value⟩ := head
      by_cases same : name = key
      · simp [updateEntries, same]
      · by_cases before : name < key <;> simp [updateEntries, same, before, ih]

theorem update_update (l : Ledger α)
    : (l.update name f).update name g = l.update name fun value => g (some (f value)) := by
  simp only [update, updateEntries_updateEntries]

end Ledger

namespace Tally

def count (t : Tally) : Tally :=
  { t with requests := t.requests + 1 }

def judge (outcome : Outcome) (t : Tally) : Tally :=
  if outcome.isError then { t with errors := t.errors + 1 } else t

def keep (capacity : Nat) (latencyMs : Binary64) (t : Tally) : Tally :=
  { t with window := t.window.push capacity latencyMs }

/-- A call is recorded in a tally by three small steps. -/
theorem keep_judge_count (capacity : Nat) (outcome : Outcome) (latencyMs : Binary64) (t : Tally)
    : ((t.count).judge outcome).keep capacity latencyMs = t.record capacity outcome latencyMs := by
  cases failed : outcome.isError <;> simp [count, judge, keep, record, failed]

end Tally

namespace Collector

/-- Changes the tally of a method that the collector has. -/
def revise (name : String) (f : Tally → Tally) (c : Collector) : Collector :=
  { c with tallies := c.tallies.update name fun tally => f (tally.getD .empty) }

/-- Puts the tally of a method that the collector does not have. -/
def insert (name : String) (t : Tally) (c : Collector) : Collector :=
  { c with tallies := c.tallies.update name fun _ => t }

theorem revise_revise (name : String) (f g : Tally → Tally) (c : Collector)
    : (c.revise name f).revise name g = c.revise name fun t => g (f t) := by
  simp [revise, Ledger.update_update]

end Collector

-----------------------------------------------------------------------------------------
-- Sections
-----------------------------------------------------------------------------------------

/-- How far the recording of a call has come. -/
inductive SectionStage where
  /-- The lock has been taken. -/
  | locked
  /-- The tally of the method has been found, or a new one made. -/
  | found
  /-- The call has been counted. -/
  | counted
  /-- Its failure has been counted, if it failed. -/
  | judged
  /-- Its latency has been kept. -/
  | kept
  /-- No tally could be made, so the call breaks off. -/
  | refused

/-- The stages at which a tally is under way. -/
def SectionStage.begun : SectionStage → Bool
  | .locked | .refused => false
  | _ => true

/-- The thread that holds the lock, with the tally of a method that the collector does not have
yet.
-/
structure Section where
  thread : Nat
  stage : SectionStage
  fresh : Option Tally

namespace Section

/-- Changes the tally under way, be it new or in the collector. -/
def revise (call : FinishedCall) (f : Tally → Tally) (stage : SectionStage)
    (s : Section) (c : Collector) : Section × Collector :=
  match s.fresh with
  | some tally => ({ s with stage, fresh := some (f tally) }, c)
  | none => ({ s with stage }, c.revise (normalizeMethod call.method) f)

/-- The next small step within a section, if there is one before the lock is let go. -/
def work (call : FinishedCall) (s : Section) (c : Collector) : Option (Section × Collector) :=
  match s.stage with
  | .locked =>
    match c.tallies.get? (normalizeMethod call.method), Tally.new? c.capacity with
    | some _, _ => some ({ s with stage := .found, fresh := none }, c)
    | none, some tally => some ({ s with stage := .found, fresh := some tally }, c)
    | none, none => some ({ s with stage := .refused, fresh := none }, c)
  | .found => some (s.revise call .count .counted c)
  | .counted => some (s.revise call (.judge call.outcome) .judged c)
  | .judged => some (s.revise call (.keep c.capacity call.latency.latencyMs) .kept c)
  | .kept | .refused => none

/-- What the last step leaves: a new tally is put into the collector. -/
def close (call : FinishedCall) (s : Section) (c : Collector) : Collector :=
  match s.fresh with
  | some tally => c.insert (normalizeMethod call.method) tally
  | none => c

end Section

/-- A collector that threads share: who holds the lock, the calls that each thread has still to
record, with the one under way, and the calls that are done, each with its thread.
-/
structure Desk where
  collector : Collector
  holder : Option Section
  threads : List (List FinishedCall)
  done : List (Nat × FinishedCall)

namespace Desk

def start (argument : Nat) (threads : List (List FinishedCall)) : Desk :=
  ⟨Collector.new argument, none, threads, []⟩

/-- The next small step of a thread. One that does not hold the lock waits for it. -/
def step? (thread : Nat) (d : Desk) : Option Desk :=
  match d.threads[thread]? with
  | some (call :: rest) =>
    match d.holder with
    | none => some { d with holder := some ⟨thread, .locked, none⟩ }
    | some s =>
      if s.thread = thread then
        match s.work call d.collector with
        | some (s, collector) => some { d with holder := some s, collector }
        | none =>
          some
            { collector := s.close call d.collector
              holder := none
              threads := d.threads.set thread rest
              done := d.done ++ [(thread, call)] }
      else none
  | _ => none

/-- A snapshot, which has to wait while the lock is held. -/
def read? (now : Time.Instant) (d : Desk) : Option Snapshot :=
  match d.holder with
  | some _ => none
  | none => some (d.collector.snapshot now)

/-- What the threads can make of a desk, in whatever order they move. -/
inductive Reaches (d : Desk) : Desk → Prop
  | refl : Reaches d d
  | tail {middle next : Desk} {thread : Nat} (reached : Reaches d middle)
    (moved : middle.step? thread = some next)
    : Reaches d next

theorem Reaches.trans {d middle last : Desk} (first : Reaches d middle)
    (second : Reaches middle last)
    : Reaches d last := by
  induction second with
  | refl => exact first
  | tail _ moved ih => exact ih.tail moved

end Desk

-----------------------------------------------------------------------------------------
-- What a section does
-----------------------------------------------------------------------------------------

/-- A collector after some calls, one after the other. -/
def replay (argument : Nat) (calls : List FinishedCall) : Collector :=
  calls.foldl Collector.recordCall (Collector.new argument)

/-- The steps that a tally has gone through at a stage. -/
def SectionStage.steps (capacity : Nat) (call : FinishedCall) : SectionStage → Tally → Tally
  | .locked | .found | .refused => id
  | .counted => Tally.count
  | .judged => fun t => t.count.judge call.outcome
  | .kept => fun t => (t.count.judge call.outcome).keep capacity call.latency.latencyMs

/-- What a collector has become at a stage, if it has the method of the call. -/
def SectionStage.revised (call : FinishedCall) (base : Collector) : SectionStage → Collector
  | .locked | .found | .refused => base
  | stage => base.revise (normalizeMethod call.method) (stage.steps base.capacity call)

/-- How a section stands, with the collector that it began with: the tally of a method that the
collector has is changed in its place, that of another one beside the collector.
-/
inductive Section.Stands (call : FinishedCall) (base : Collector) : Section → Collector → Prop
  | locked {thread : Nat} : Stands call base ⟨thread, .locked, none⟩ base
  | known {thread : Nat} {stage : SectionStage} (begun : stage.begun = true)
    (known : (base.tallies.get? (normalizeMethod call.method)).isSome = true)
    : Stands call base ⟨thread, stage, none⟩ (stage.revised call base)
  | fresh {thread : Nat} {stage : SectionStage} (begun : stage.begun = true)
    (absent : base.tallies.get? (normalizeMethod call.method) = none)
    (taken : base.takes call.method = true)
    : Stands call base ⟨thread, stage, some (stage.steps base.capacity call .empty)⟩ base
  | refused {thread : Nat} (breaks : base.takes call.method = false)
    : Stands call base ⟨thread, .refused, none⟩ base

namespace Section

variable {call : FinishedCall} {base c next : Collector} {s later : Section}

/-- Each small step in place makes of the collector what it is at the next stage. -/
theorem revised_judge
    : (SectionStage.counted.revised call base).revise (normalizeMethod call.method)
        (.judge call.outcome)
      = SectionStage.judged.revised call base :=
  Collector.revise_revise _ _ _ _

theorem revised_keep
    : (SectionStage.judged.revised call base).revise (normalizeMethod call.method)
        (.keep base.capacity call.latency.latencyMs)
      = SectionStage.kept.revised call base :=
  Collector.revise_revise _ _ _ _

/-- A small step leads from one stage to the next, by cases on the stages. -/
theorem Stands.work (stands : s.Stands call base c)
    (worked : s.work call c = some (later, next))
    : later.Stands call base next := by
  cases stands with
  | locked =>
      simp only [Section.work] at worked
      split at worked <;> cases worked
      · next found => exact .known rfl (by simp [found])
      · next tally absent made =>
        cases Tally.eq_empty_of_new? made
        exact .fresh rfl absent (by simp [Collector.takes, Collector.tally?, made])
      · next absent none =>
        exact .refused (by simp [Collector.takes, Collector.tally?, absent, none])
  | @known thread stage begun known =>
      have stands (later : SectionStage) (begun : later.begun = true)
          : Stands call base ⟨thread, later, none⟩ (later.revised call base) :=
        .known begun known
      cases stage with
      | locked | refused => cases begun
      | found =>
          cases worked
          exact stands .counted rfl
      | counted =>
          cases worked
          exact revised_judge ▸ stands .judged rfl
      | judged =>
          cases worked
          exact revised_keep ▸ stands .kept rfl
      | kept => cases worked
  | @fresh thread stage begun absent taken =>
      have stands (later : SectionStage) (begun : later.begun = true)
          : Stands call base ⟨thread, later, some (later.steps base.capacity call .empty)⟩ base :=
        .fresh begun absent taken
      cases stage with
      | locked | refused => cases begun
      | found =>
          cases worked
          exact stands .counted rfl
      | counted =>
          cases worked
          exact stands .judged rfl
      | judged =>
          cases worked
          exact stands .kept rfl
      | kept => cases worked
  | refused => cases worked

/-- When a section has no step left, its call has been recorded as the collector records it. -/
theorem Stands.close (stands : s.Stands call base c) (spent : s.work call c = none)
    : s.close call c = base.recordCall call := by
  cases stands with
  | locked =>
      simp only [Section.work] at spent
      split at spent <;> cases spent
  | @known thread stage begun known =>
      cases stage with
      | locked | refused => cases begun
      | found | counted | judged => cases spent
      | kept =>
          have taken : base.takes call.method = true := by
            simp [Collector.takes, Collector.tally?, known]
          rw [Collector.recordCall, Collector.record_of_takes taken]
          simp only [Section.close, SectionStage.revised, SectionStage.steps,
            Tally.keep_judge_count]
          rfl
  | @fresh thread stage begun absent taken =>
      cases stage with
      | locked | refused => cases begun
      | found | counted | judged => cases spent
      | kept =>
          rw [Collector.recordCall, Collector.record_of_takes taken]
          simp only [Section.close, SectionStage.steps, Tally.keep_judge_count, Collector.insert,
            Collector.mk.injEq, true_and]
          refine Ledger.update_congr ?_
          rw [absent]
          rfl
  | refused breaks => exact (Collector.record_of_refused breaks).symm

/-- How many small steps a section has left. -/
def stepsLeft (s : Section) : Nat :=
  match s.stage with
  | .locked => 4
  | .found => 3
  | .counted => 2
  | .judged => 1
  | .kept | .refused => 0

/-- A small step is one of the same thread, and brings the section nearer to its end. -/
theorem stepsLeft_work (worked : s.work call c = some (later, next))
    : later.thread = s.thread ∧ later.stepsLeft < s.stepsLeft := by
  obtain ⟨thread, stage, fresh⟩ := s
  cases stage with
  | kept | refused => cases worked
  | locked =>
      simp only [Section.work] at worked
      split at worked <;> cases worked <;> exact ⟨rfl, by simp [stepsLeft]⟩
  | found | counted | judged =>
      cases fresh <;> cases worked <;> exact ⟨rfl, by simp [stepsLeft]⟩

end Section

-----------------------------------------------------------------------------------------
-- Schedules
-----------------------------------------------------------------------------------------

/-- The calls of a thread among calls with their threads. -/
def callsOf (thread : Nat) (schedule : List (Nat × FinishedCall)) : List FinishedCall :=
  (schedule.filter fun entry => entry.1 = thread).map Prod.snd

/-- A schedule is an interleaving of what threads do: it has the calls of every thread, in their
order, and no others.
-/
def Interleaves (threads : List (List FinishedCall)) (schedule : List (Nat × FinishedCall))
    : Prop :=
  ∀ thread, callsOf thread schedule = threads[thread]?.getD []

theorem callsOf_append (thread : Nat) (schedule more : List (Nat × FinishedCall))
    : callsOf thread (schedule ++ more) = callsOf thread schedule ++ callsOf thread more := by
  simp [callsOf]

theorem callsOf_cons_self (thread : Nat) (call : FinishedCall)
    (rest : List (Nat × FinishedCall))
    : callsOf thread ((thread, call) :: rest) = call :: callsOf thread rest := by
  simp [callsOf]

theorem callsOf_cons_of_ne {thread other : Nat} (different : other ≠ thread)
    (call : FinishedCall) (rest : List (Nat × FinishedCall))
    : callsOf thread ((other, call) :: rest) = callsOf thread rest := by
  simp [callsOf, different]

namespace Desk

variable {d next : Desk} {thread : Nat} {call : FinishedCall} {rest : List FinishedCall}

/-- The three ways in which a thread moves, with the call that it has to record: it takes the
lock, takes a small step, or is done and lets go of the lock.
-/
inductive Moves (thread : Nat) (call : FinishedCall) (rest : List FinishedCall) (d : Desk)
    : Desk → Prop
  | enter (free : d.holder = none)
    : Moves thread call rest d { d with holder := some ⟨thread, .locked, none⟩ }
  | work {s later : Section} {collector : Collector} (held : d.holder = some s)
    (own : s.thread = thread) (worked : s.work call d.collector = some (later, collector))
    : Moves thread call rest d { d with holder := some later, collector }
  | leave {s : Section} (held : d.holder = some s) (own : s.thread = thread)
    (spent : s.work call d.collector = none)
    : Moves thread call rest d
        ⟨s.close call d.collector, none, d.threads.set thread rest, d.done ++ [(thread, call)]⟩

theorem step?_eq_some_iff
    : d.step? thread = some next
      ↔ ∃ call rest, d.threads[thread]? = some (call :: rest) ∧ d.Moves thread call rest next := by
  constructor
  · intro moved
    unfold step? at moved
    split at moved
    · next call rest found =>
      refine ⟨call, rest, found, ?_⟩
      split at moved
      · next free =>
        cases moved
        exact .enter free
      · next s held =>
        split at moved
        · next own =>
          split at moved <;> cases moved
          · next worked => exact .work held own worked
          · next spent => exact .leave held own spent
        · cases moved
    · cases moved
  · rintro ⟨call, rest, found, moves⟩
    cases moves with
    | enter free => simp [step?, found, free]
    | work held own worked => simp [step?, found, held, own, worked]
    | leave held own spent => simp [step?, found, held, own, spent]

/-- What holds of a desk, whatever its threads have done: if the lock is free the collector is
as the calls that are done have left it, if it is held the section stands with that collector,
and what a thread has done and what it has still to do are its calls.
-/
structure Keeps (argument : Nat) (threads : List (List FinishedCall)) (d : Desk) : Prop where
  free : d.holder = none → d.collector = replay argument (d.done.map Prod.snd)
  held :
    ∀ s, d.holder = some s
      → ∃ call rest, d.threads[s.thread]? = some (call :: rest)
          ∧ s.Stands call (replay argument (d.done.map Prod.snd)) d.collector
  order :
    ∀ thread, callsOf thread d.done ++ d.threads[thread]?.getD [] = threads[thread]?.getD []

variable {argument : Nat} {threads : List (List FinishedCall)}

theorem keeps_start (argument : Nat) (threads : List (List FinishedCall))
    : (start argument threads).Keeps argument threads :=
  ⟨fun _ => rfl, nofun, fun _ => rfl⟩

theorem replay_append (argument : Nat) (calls : List FinishedCall) (call : FinishedCall)
    : replay argument (calls ++ [call]) = (replay argument calls).recordCall call := by
  simp [replay]

/-- Every step keeps this up, by cases on the ways in which a thread moves. -/
theorem Keeps.step (keeps : d.Keeps argument threads) (moved : d.step? thread = some next)
    : next.Keeps argument threads := by
  obtain ⟨call, rest, found, moves⟩ := step?_eq_some_iff.mp moved
  cases moves with
  | enter free =>
      refine ⟨nofun, ?_, keeps.order⟩
      rintro s ⟨⟩
      rw [keeps.free free]
      exact ⟨call, rest, found, .locked⟩
  | @work s later collector held own worked =>
      obtain ⟨first, others, known, stands⟩ := keeps.held s held
      rw [own, found] at known
      cases known
      refine ⟨nofun, ?_, keeps.order⟩
      rintro _ ⟨⟩
      rw [(Section.stepsLeft_work worked).1, own]
      exact ⟨call, rest, found, stands.work worked⟩
  | @leave s held own spent =>
      obtain ⟨first, others, known, stands⟩ := keeps.held s held
      rw [own, found] at known
      cases known
      refine ⟨fun _ => ?_, nofun, fun other => ?_⟩
      · rw [List.map_append, List.map_singleton, replay_append, ← stands.close spent]
      · have before := keeps.order other
        obtain ⟨inside, -⟩ := List.getElem?_eq_some_iff.mp found
        rw [callsOf_append]
        by_cases same : other = thread
        · subst same
          rw [← before, found, List.getElem?_set_self inside]
          simp [callsOf]
        · rw [← before, List.getElem?_set_ne (Ne.symm same),
            callsOf_cons_of_ne (Ne.symm same)]
          simp [callsOf]

/-- So does every history, by induction on it. -/
theorem Keeps.reaches (keeps : d.Keeps argument threads) (reached : d.Reaches next)
    : next.Keeps argument threads := by
  induction reached with
  | refl => exact keeps
  | tail _ moved ih => exact ih.step moved

/-- A thread that holds the lock can finish its call, by induction on the steps that it has
left.
-/
theorem exists_leave {s : Section} (found : d.threads[thread]? = some (call :: rest))
    (held : d.holder = some s) (own : s.thread = thread)
    : ∃ collector,
        d.Reaches ⟨collector, none, d.threads.set thread rest, d.done ++ [(thread, call)]⟩ := by
  induction left : s.stepsLeft using Nat.strongRecOn generalizing d s with
  | ind n ih =>
      cases worked : s.work call d.collector with
      | none =>
          have moved := step?_eq_some_iff.mpr ⟨call, rest, found, .leave held own worked⟩
          exact ⟨_, Reaches.refl.tail moved⟩
      | some progress =>
          obtain ⟨later, collector⟩ := progress
          obtain ⟨same, nearer⟩ := Section.stepsLeft_work worked
          have moved := step?_eq_some_iff.mpr ⟨call, rest, found, .work held own worked⟩
          obtain ⟨last, reached⟩ := ih later.stepsLeft (left ▸ nearer)
            (d := { d with holder := some later, collector }) found rfl (same.trans own) rfl
          exact ⟨last, (Reaches.refl.tail moved).trans reached⟩

/-- A thread can record its next call in one go while the lock is free. -/
theorem exists_call (free : d.holder = none) (found : d.threads[thread]? = some (call :: rest))
    : ∃ collector,
        d.Reaches ⟨collector, none, d.threads.set thread rest, d.done ++ [(thread, call)]⟩ := by
  have moved := step?_eq_some_iff.mpr ⟨call, rest, found, .enter free⟩
  obtain ⟨collector, reached⟩ :=
    exists_leave (d := { d with holder := some ⟨thread, .locked, none⟩ }) found rfl rfl
  exact ⟨collector, (Reaches.refl.tail moved).trans reached⟩

end Desk

end CallWatch
