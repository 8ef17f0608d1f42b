import CallWatch.Proofs.Collector.Sections
import Mathlib.Data.List.Sort

/-! What a snapshot owes to the order of calls.
The row of a name is told by the calls under it alone. Of two interleavings of the same threads
all counts are the same, and so is the percentile as long as no latency has had to make room or
one thread alone calls the method.
-/

namespace CallWatch

-----------------------------------------------------------------------------------------
-- Percentiles
-----------------------------------------------------------------------------------------

namespace Binary64

/-- No two numbers have one rank. -/
theorem rank_inj {x y : Binary64} (same : x.rank = y.rank)
    : x = y := by
  obtain ⟨xNegative, xMagnitude, _⟩ := x
  obtain ⟨yNegative, yMagnitude, _⟩ := y
  simp only [rank] at same
  cases xNegative <;> cases yNegative <;>
    simp only [Bool.false_eq_true, ↓reduceIte, mk.injEq, true_and] at same ⊢ <;> omega

theorem totalLE_trans (x y z : Binary64) (first : x.totalLE y = true) (second : y.totalLE z = true)
    : x.totalLE z = true := by
  simp only [totalLE, decide_eq_true_iff] at first second ⊢
  omega

theorem totalLE_total (x y : Binary64)
    : (x.totalLE y || y.totalLE x) = true := by
  simp only [totalLE, Bool.or_eq_true, decide_eq_true_iff]
  omega

theorem totalLE_antisymm {x y : Binary64} (first : x.totalLE y = true)
    (second : y.totalLE x = true)
    : x = y := by
  simp only [totalLE, decide_eq_true_iff] at first second
  exact rank_inj (by omega)

/-- The ascending list of some numbers does not depend on the order in which they come. -/
theorem ascending_perm {xs ys : List Binary64} (same : xs.Perm ys)
    : ascending xs = ascending ys := by
  have sorted (zs : List Binary64) : (ascending zs).Pairwise fun x y => x.totalLE y = true :=
    List.pairwise_mergeSort totalLE_trans totalLE_total zs
  have kept (zs : List Binary64) : (ascending zs).Perm zs := List.mergeSort_perm zs totalLE
  exact (((kept xs).trans same).trans (kept ys).symm).eq_of_pairwise
    (fun _ _ _ _ => totalLE_antisymm) (sorted xs) (sorted ys)

end Binary64

/-- So neither does the reported percentile. -/
theorem Percentile.p95_perm {samples others : List Binary64} (same : samples.Perm others)
    : p95 samples = p95 others := by
  rw [p95, p95, Binary64.ascending_perm same]

-----------------------------------------------------------------------------------------
-- Rows
-----------------------------------------------------------------------------------------

/-- The row of a name after the calls under it, if there are any. -/
def rowOf (name : String) (capacity : Nat) (calls : List FinishedCall) : Option Row :=
  let errors := calls.countP fun call => call.outcome.isError
  if calls = [] then none
  else
    some
      { method := name
        requests := calls.length
        errors
        errorRate := (Binary64.ofNat errors).div (Binary64.ofNat calls.length)
        p95 := Percentile.p95 ((calls.map fun call => call.latency.latencyMs).rtake capacity) }

/-- The figures of a row that only count. -/
def Row.counts (row : Row) : Nat × Nat × Binary64 :=
  (row.requests, row.errors, row.errorRate)

/-- The row of a tally is told by the calls that it holds. -/
theorem Tally.Holds.row_eq {t : Tally} {capacity : Nat} {calls : List FinishedCall}
    (h : t.Holds capacity calls) (occurred : calls ≠ []) (name : String)
    : some (t.row name) = rowOf name capacity calls := by
  have positive : 0 < calls.length := List.length_pos_iff.mpr occurred
  simp [rowOf, occurred, Tally.row, Tally.errorRate, h.requests, h.errors, h.window, positive]

/-- The calls under a name that are taken are those among the calls under it. -/
theorem callsNamed_taken (c : Collector) (name : String) (calls : List FinishedCall)
    : callsNamed name (c.taken calls) = c.taken (callsNamed name calls) := by
  simp only [callsNamed, Collector.taken, List.filter_filter, Bool.and_comm]

/-- The row that a snapshot shows under a name is told by the calls under it that are taken. -/
theorem find?_replay (argument : Nat) (calls : List FinishedCall) (name : String)
    (now : Time.Instant)
    : ((replay argument calls).snapshot now).find? name
      = rowOf name (Collector.new argument).capacity
          ((Collector.new argument).taken (callsNamed name calls)) := by
  rw [← callsNamed_taken]
  have holds : (replay argument calls).Holds ((Collector.new argument).taken calls) :=
    Collector.foldl_holds (Collector.new_holds argument) calls
  by_cases none : callsNamed name ((Collector.new argument).taken calls) = []
  · have absent := holds.absent name none
    rw [none, rowOf, if_pos rfl, Option.eq_none_iff_forall_ne_some]
    intro row found
    obtain ⟨member, rfl⟩ := Collector.find?_snapshot.mp found
    obtain ⟨tally, known, -⟩ := Collector.mem_rows_iff.mp member
    cases absent.symm.trans known
  · obtain ⟨tally, found, counts⟩ := holds.present name none
    have capacity : (replay argument calls).capacity = (Collector.new argument).capacity :=
      Collector.foldl_recordCall_capacity _ calls
    rw [capacity] at counts
    rw [← counts.row_eq none name]
    exact Collector.find?_snapshot.mpr
      ⟨Collector.mem_rows_iff.mpr ⟨tally, found, rfl⟩, rfl⟩

section Order
variable {calls more : List FinishedCall} {capacity : Nat}

/-- The counts of a row do not depend on the order of the calls. -/
theorem counts_rowOf_perm (same : calls.Perm more) (name : String)
    : (rowOf name capacity calls).map Row.counts = (rowOf name capacity more).map Row.counts := by
  have errors := same.countP_eq fun call => call.outcome.isError
  have empty : calls = [] ↔ more = [] := by
    rw [← List.length_eq_zero_iff, ← List.length_eq_zero_iff, same.length_eq]
  by_cases none : calls = []
  · simp [rowOf, none, empty.mp none]
  · simp [rowOf, none, mt empty.mpr none, Row.counts, errors, same.length_eq]

/-- If there is room for the latencies of all the calls, the whole row does not. -/
theorem rowOf_perm (same : calls.Perm more) (room : calls.length ≤ capacity) (name : String)
    : rowOf name capacity calls = rowOf name capacity more := by
  have errors := same.countP_eq fun call => call.outcome.isError
  have empty : calls = [] ↔ more = [] := by
    rw [← List.length_eq_zero_iff, ← List.length_eq_zero_iff, same.length_eq]
  have whole {xs : List FinishedCall} (short : xs.length ≤ capacity)
      : (xs.map fun call => call.latency.latencyMs).rtake capacity
        = xs.map fun call => call.latency.latencyMs := by
    simp [List.rtake, short]
  have p95 : Percentile.p95 (calls.map fun call => call.latency.latencyMs)
      = Percentile.p95 (more.map fun call => call.latency.latencyMs) :=
    Percentile.p95_perm (same.map _)
  by_cases none : calls = []
  · rw [none, empty.mp none]
  · simp [rowOf, none, mt empty.mpr none, errors, same.length_eq, p95, whole room,
      whole (same.length_eq ▸ room)]

end Order

-----------------------------------------------------------------------------------------
-- Interleavings
-----------------------------------------------------------------------------------------

/-- The first call of an interleaving is the first of its thread, and the others interleave what
is left then.
-/
theorem Interleaves.cons_inv {threads : List (List FinishedCall)} {thread : Nat}
    {call : FinishedCall} {schedule : List (Nat × FinishedCall)}
    (h : Interleaves threads ((thread, call) :: schedule))
    : ∃ rest, threads[thread]? = some (call :: rest)
        ∧ Interleaves (threads.set thread rest) schedule := by
  have own := h thread
  rw [callsOf_cons_self] at own
  cases found : threads[thread]? with
  | none => simp [found] at own
  | some calls =>
      rw [found, Option.getD_some] at own
      refine ⟨callsOf thread schedule, by rw [own], fun other => ?_⟩
      obtain ⟨inside, -⟩ := List.getElem?_eq_some_iff.mp found
      by_cases same : other = thread
      · subst same
        rw [List.getElem?_set_self inside, Option.getD_some]
      · rw [List.getElem?_set_ne (Ne.symm same), ← h other, callsOf_cons_of_ne (Ne.symm same)]

/-- Taking the first call of a thread away leaves the others, by induction on the threads. -/
theorem flatten_perm_cons_set {threads : List (List FinishedCall)} {thread : Nat}
    {call : FinishedCall} {rest : List FinishedCall}
    (found : threads[thread]? = some (call :: rest))
    : threads.flatten.Perm (call :: (threads.set thread rest).flatten) := by
  induction threads generalizing thread with
  | nil => cases found
  | cons calls others ih =>
      cases thread with
      | zero =>
          cases found
          exact .refl _
      | succ thread =>
          have later : others.flatten.Perm (call :: (others.set thread rest).flatten) := ih found
          exact (later.append_left calls).trans List.perm_middle

/-- An interleaving has the calls of all threads, by induction on it. -/
theorem Interleaves.perm {threads : List (List FinishedCall)}
    {schedule : List (Nat × FinishedCall)} (h : Interleaves threads schedule)
    : (schedule.map Prod.snd).Perm threads.flatten := by
  induction schedule generalizing threads with
  | nil =>
      have empty : threads.flatten = [] := by
        rw [List.flatten_eq_nil_iff]
        intro calls member
        obtain ⟨thread, inside, rfl⟩ := List.getElem_of_mem member
        have own := h thread
        rw [List.getElem?_eq_getElem inside, Option.getD_some] at own
        exact own.symm
      rw [empty]
      rfl
  | cons entry schedule ih =>
      obtain ⟨thread, call⟩ := entry
      obtain ⟨rest, found, others⟩ := h.cons_inv
      exact ((ih others).cons call).trans (flatten_perm_cons_set found).symm

/-- If one thread alone calls a method, an interleaving has its calls in their order. -/
theorem Interleaves.callsNamed_eq {threads : List (List FinishedCall)}
    {schedule : List (Nat × FinishedCall)} (h : Interleaves threads schedule) {name : String}
    {thread : Nat}
    (alone : ∀ other ≠ thread, callsNamed name (threads[other]?.getD []) = [])
    : callsNamed name (schedule.map Prod.snd) = callsNamed name (threads[thread]?.getD []) := by
  have apart : ∀ entry ∈ schedule, normalizeMethod entry.2.method = name → entry.1 = thread := by
    intro entry member named
    by_contra other
    have none := alone entry.1 other
    rw [← h entry.1, callsNamed, List.filter_eq_nil_iff] at none
    refine none entry.2 ?_ (by simpa using named)
    exact List.mem_map.mpr ⟨entry, List.mem_filter.mpr ⟨member, by simp⟩, rfl⟩
  rw [← h thread, callsNamed, callsNamed, callsOf, List.filter_map, List.filter_map,
    List.filter_filter]
  refine congrArg (List.map Prod.snd) (List.filter_congr fun entry member => ?_)
  simp only [Function.comp_apply]
  by_cases named : normalizeMethod entry.2.method = name
  · simp [named, apart entry member named]
  · simp [named]

namespace Desk

/-- Threads can get along in the way of any interleaving, by induction on it. -/
theorem exists_schedule {d : Desk} (free : d.holder = none)
    {schedule : List (Nat × FinishedCall)} (h : Interleaves d.threads schedule)
    : ∃ last, d.Reaches last ∧ last.holder = none ∧ last.done = d.done ++ schedule := by
  induction schedule generalizing d with
  | nil => exact ⟨d, .refl, free, (List.append_nil _).symm⟩
  | cons entry schedule ih =>
      obtain ⟨thread, call⟩ := entry
      obtain ⟨rest, found, others⟩ := h.cons_inv
      obtain ⟨collector, first⟩ := exists_call free found
      obtain ⟨last, reached, idle, done⟩ := ih
        (d := ⟨collector, none, d.threads.set thread rest, d.done ++ [(thread, call)]⟩) rfl others
      refine ⟨last, first.trans reached, idle, ?_⟩
      rw [done, List.append_assoc]
      rfl

/-- When nothing is left to do, what has been done is an interleaving of the threads, and the
lock is free.
-/
theorem Keeps.finished {argument : Nat} {threads : List (List FinishedCall)} {d : Desk}
    (keeps : d.Keeps argument threads) (spent : ∀ calls ∈ d.threads, calls = [])
    : Interleaves threads d.done ∧ d.holder = none := by
  have none (thread : Nat) : d.threads[thread]?.getD [] = [] := by
    cases found : d.threads[thread]? with
    | none => rfl
    | some calls => exact spent calls (List.mem_of_getElem? found)
  constructor
  · intro thread
    rw [← keeps.order thread, none thread, List.append_nil]
  · rw [Option.eq_none_iff_forall_ne_some]
    intro s held
    obtain ⟨call, rest, found, -⟩ := keeps.held s held
    have empty := none s.thread
    rw [found] at empty
    cases empty

end Desk

-----------------------------------------------------------------------------------------
-- The law
-----------------------------------------------------------------------------------------

/-- What a collector that threads share owes to their schedule.

- `own`: the row of a name is told by the calls under it, in their order: calls under other
  names never change it;
- `counts`: after any two interleavings every row is there on both sides or on neither, with the
  same counts and the same error rate;
- `whole`: the whole row is the same if there is room for the latencies of all calls under its
  name, or if they all come from one thread;
- `finished`: whatever small steps the threads take, when all calls have been recorded the
  collector is as after an interleaving of theirs;
- `realized`: every interleaving is one that the threads can bring about;
- `reads`: a snapshot that is taken on the way, when the lock is free, is that of the calls that
  are done, one after the other, and these are the first calls of every thread.
-/
structure ScheduleLaw (argument : Nat) (threads : List (List FinishedCall)) : Prop where
  own :
    ∀ (calls more : List FinishedCall) (name : String) (now later : Time.Instant),
      callsNamed name calls = callsNamed name more
      → ((replay argument calls).snapshot now).find? name
        = ((replay argument more).snapshot later).find? name
  counts :
    ∀ (a b : List (Nat × FinishedCall)) (name : String) (now later : Time.Instant),
      Interleaves threads a → Interleaves threads b
      → (((replay argument (a.map Prod.snd)).snapshot now).find? name).map Row.counts
        = (((replay argument (b.map Prod.snd)).snapshot later).find? name).map Row.counts
  whole :
    ∀ (a b : List (Nat × FinishedCall)) (name : String) (now later : Time.Instant),
      Interleaves threads a → Interleaves threads b
      → ((callsNamed name threads.flatten).length ≤ (Collector.new argument).capacity
        ∨ ∃ thread : Nat, ∀ other ≠ thread, callsNamed name (threads[other]?.getD []) = [])
      → ((replay argument (a.map Prod.snd)).snapshot now).find? name
        = ((replay argument (b.map Prod.snd)).snapshot later).find? name
  finished :
    ∀ d : Desk, (Desk.start argument threads).Reaches d → (∀ calls ∈ d.threads, calls = [])
      → Interleaves threads d.done ∧ d.collector = replay argument (d.done.map Prod.snd)
  realized :
    ∀ schedule : List (Nat × FinishedCall), Interleaves threads schedule
      → ∃ d, (Desk.start argument threads).Reaches d
          ∧ d.done = schedule
          ∧ d.collector = replay argument (schedule.map Prod.snd)
  reads :
    ∀ (d : Desk) (now : Time.Instant) (s : Snapshot),
      (Desk.start argument threads).Reaches d → d.read? now = some s
      → s = (replay argument (d.done.map Prod.snd)).snapshot now
        ∧ ∀ thread, callsOf thread d.done <+: threads[thread]?.getD []

/-- Threads that share a collector make of it what one makes that has their calls in some order, and
see nothing half done, for every capacity and whatever they record.
-/
theorem scheduleLaw (argument : Nat) (threads : List (List FinishedCall))
    : ScheduleLaw argument threads := by
  have keeps {d : Desk} (reached : (Desk.start argument threads).Reaches d) :=
    (Desk.keeps_start argument threads).reaches reached
  have same {a b : List (Nat × FinishedCall)} (first : Interleaves threads a)
      (second : Interleaves threads b) (name : String)
      : (callsNamed name (a.map Prod.snd)).Perm (callsNamed name (b.map Prod.snd)) :=
    (first.perm.trans second.perm.symm).filter _
  constructor
  · intro calls more name now later alike
    rw [find?_replay, find?_replay, alike]
  · intro a b name now later first second
    rw [find?_replay, find?_replay]
    exact counts_rowOf_perm ((same first second name).filter _) name
  · intro a b name now later first second ordered
    rw [find?_replay, find?_replay]
    rcases ordered with room | ⟨thread, alone⟩
    · have few := (first.perm.filter fun call => normalizeMethod call.method = name).length_eq
      have fewer := List.length_filter_le (fun call : FinishedCall =>
        (Collector.new argument).takes call.method) (callsNamed name (a.map Prod.snd))
      exact rowOf_perm ((same first second name).filter _) (fewer.trans (few.trans_le room)) name
    · rw [first.callsNamed_eq alone, second.callsNamed_eq alone]
  · intro d reached spent
    obtain ⟨interleaves, free⟩ := (keeps reached).finished spent
    exact ⟨interleaves, (keeps reached).free free⟩
  · intro schedule interleaves
    obtain ⟨d, reached, free, done⟩ :=
      Desk.exists_schedule (d := Desk.start argument threads) rfl interleaves
    have all : d.done = schedule := done
    exact ⟨d, reached, all, all ▸ (keeps reached).free free⟩
  · intro d now s reached read
    unfold Desk.read? at read
    split at read
    · cases read
    · next free =>
      cases read
      refine ⟨by rw [(keeps reached).free free], fun thread => ?_⟩
      exact ⟨_, (keeps reached).order thread⟩

end CallWatch
