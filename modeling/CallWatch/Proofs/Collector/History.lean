import CallWatch.Collector.Snapshot
import CallWatch.Proofs.Collector.Taking
import CallWatch.Proofs.Text.ByteOrder
import Mathlib.Algebra.BigOperators.Group.List.Lemmas
import Mathlib.Algebra.GroupWithZero.Nat
import Mathlib.Data.List.DropRight

/-! What a collector knows is a function of the calls that it was told of.
Every tally is that of the calls under its name, so a snapshot has one row for every name
that occurred and the figures of the row are those of its calls. A call that the collector does
not take breaks off and leaves no trace.
-/

namespace CallWatch

-----------------------------------------------------------------------------------------
-- Histories
-----------------------------------------------------------------------------------------

/-- A finished call as a collector is told of it. -/
structure FinishedCall where
  method : String
  outcome : Outcome
  latency : Duration

/-- What happens to a collector. -/
inductive CollectorEvent where
  | recorded (call : FinishedCall)
  | snapshotTaken (now : Time.Instant)

/-- The calls of a history in the order of their arrival. -/
def recordedCalls (history : List CollectorEvent) : List FinishedCall :=
  history.filterMap fun event =>
    match event with
    | .recorded call => some call
    | .snapshotTaken _ => none

/-- The calls that are counted under a name. -/
def callsNamed (name : String) (calls : List FinishedCall) : List FinishedCall :=
  calls.filter fun call => normalizeMethod call.method = name

namespace Collector

def recordCall (c : Collector) (call : FinishedCall) : Collector :=
  c.record call.method call.outcome call.latency

/-- The calls that a collector takes. -/
def taken (c : Collector) (calls : List FinishedCall) : List FinishedCall :=
  calls.filter fun call => c.takes call.method

/-- The collector after a history, and the snapshots that were taken on the way. -/
def run (c : Collector) : List CollectorEvent → Collector × List Snapshot
  | [] => (c, [])
  | .recorded call :: rest => (c.recordCall call).run rest
  | .snapshotTaken now :: rest =>
    let (last, taken) := c.run rest
    (last, c.snapshot now :: taken)

@[simp] theorem recordCall_capacity (c : Collector) (call : FinishedCall)
    : (c.recordCall call).capacity = c.capacity :=
  capacity_record

@[simp] theorem taken_recordCall (c : Collector) (call : FinishedCall)
    (calls : List FinishedCall)
    : (c.recordCall call).taken calls = c.taken calls := by
  simp only [taken, recordCall, takes_record]

theorem Fits.taken {c : Collector} (fits : c.Fits) (calls : List FinishedCall)
    : c.taken calls = calls := by
  simp [Collector.taken, fits.takes]

theorem taken_new {argument : Nat} (large : ¬ (new argument).Fits) (calls : List FinishedCall)
    : (new argument).taken calls = [] := by
  simp [taken, takes_new, large]

/-- The capacity is that of the start, whatever is recorded. -/
theorem foldl_recordCall_capacity (c : Collector) (calls : List FinishedCall)
    : (calls.foldl recordCall c).capacity = c.capacity := by
  induction calls generalizing c with
  | nil => rfl
  | cons call rest ih => exact (ih (c.recordCall call)).trans (recordCall_capacity c call)

/-- What is taken is what is taken at the start, whatever is recorded. -/
theorem takes_foldl_recordCall (c : Collector) (calls : List FinishedCall) (method : String)
    : (calls.foldl recordCall c).takes method = c.takes method := by
  induction calls generalizing c with
  | nil => rfl
  | cons call rest ih => exact (ih (c.recordCall call)).trans (takes_record method)

/-- Recording a call that is taken counts it in the tally of its name and leaves all others
alone.
-/
theorem get?_recordCall {c : Collector} {call : FinishedCall} (taken : c.takes call.method = true)
    (name : String)
    : (c.recordCall call).tallies.get? name
      = if name = normalizeMethod call.method then
          some
            (((c.tallies.get? name).getD Tally.empty).record c.capacity call.outcome
              call.latency.latencyMs)
        else c.tallies.get? name := by
  rw [recordCall, record_of_takes taken]
  simp only [Ledger.get?_update]
  by_cases same : name = normalizeMethod call.method <;> simp [same]

/-- Snapshots leave no trace, by induction on the history. -/
theorem run_fst (c : Collector) (history : List CollectorEvent)
    : (c.run history).1 = (recordedCalls history).foldl recordCall c := by
  induction history generalizing c with
  | nil => rfl
  | cons event rest ih =>
      cases event with
      | recorded call => exact ih (c.recordCall call)
      | snapshotTaken now => exact ih c

end Collector

-----------------------------------------------------------------------------------------
-- One name
-----------------------------------------------------------------------------------------

/-- A tally holds the figures of some calls: their number, the number of those that failed,
and the newest latencies that its window has room for.
-/
structure Tally.Holds (t : Tally) (capacity : Nat) (calls : List FinishedCall) : Prop where
  requests : t.requests = calls.length
  errors : t.errors = calls.countP fun call => call.outcome.isError
  window : t.window.toList = (calls.map fun call => call.latency.latencyMs).rtake capacity

/-- The newest values of a list and one more are the newest of the longer list. -/
theorem drop_rtake_append {α : Type} (xs : List α) (x : α) (n : Nat)
    : (xs.rtake n ++ [x]).drop ((xs.rtake n).length + 1 - n) = (xs ++ [x]).rtake n := by
  simp only [List.rtake, List.length_drop, List.length_append, List.length_singleton]
  rcases Nat.lt_or_ge xs.length n with short | full
  · rw [show xs.length - n = 0 by omega, List.drop_zero]
    congr 1
  · rw [← List.drop_append_of_le_length (by omega), List.drop_drop]
    congr 1
    omega

/-- The window of some calls is never longer than its capacity. -/
theorem Tally.Holds.length_window {t : Tally} {capacity : Nat} {calls : List FinishedCall}
    (h : t.Holds capacity calls)
    : t.window.toList.length = min calls.length capacity := by
  simp only [h.window, List.rtake, List.length_drop, List.length_map]
  omega

theorem Tally.empty_holds (capacity : Nat)
    : Tally.empty.Holds capacity [] :=
  ⟨rfl, rfl, by simp [Tally.empty, Window.empty, Window.toList, List.rtake]⟩

/-- Counting a call keeps a tally in step with its calls; the window evicts before it
appends, so it holds the newest latencies again.
-/
theorem Tally.Holds.record {t : Tally} {capacity : Nat} {calls : List FinishedCall}
    (positive : 0 < capacity) (h : t.Holds capacity calls) (call : FinishedCall)
    : (t.record capacity call.outcome call.latency.latencyMs).Holds capacity
        (calls ++ [call]) := by
  have fits : t.window.toList.length ≤ capacity := by
    rw [h.length_window]
    exact Nat.min_le_right _ _
  constructor
  · simp [Tally.record, h.requests]
  · cases failed : call.outcome.isError <;> simp [Tally.record, h.errors, failed]
  · change (t.window.push capacity call.latency.latencyMs).toList = _
    rw [Window.toList_push positive fits, h.window, drop_rtake_append, List.map_append]
    rfl

-----------------------------------------------------------------------------------------
-- All names
-----------------------------------------------------------------------------------------

/-- A collector has a tally for exactly the names under which calls were counted, and every
tally holds the figures of the calls of its name.
-/
structure Collector.Holds (c : Collector) (calls : List FinishedCall) : Prop where
  absent : ∀ name, callsNamed name calls = [] → c.tallies.get? name = none
  present
    : ∀ name,
        callsNamed name calls ≠ []
        → ∃ tally,
            c.tallies.get? name = some tally
            ∧ tally.Holds c.capacity (callsNamed name calls)

/-- What a collector has under a name, if anything, is in step with the calls of the name. -/
theorem Collector.Holds.tally {c : Collector} {calls : List FinishedCall} (h : c.Holds calls)
    (name : String)
    : ((c.tallies.get? name).getD Tally.empty).Holds c.capacity (callsNamed name calls) := by
  by_cases none : callsNamed name calls = []
  · rw [h.absent name none, none]
    exact Tally.empty_holds c.capacity
  · obtain ⟨tally, found, holds⟩ := h.present name none
    rw [found]
    exact holds

/-- The collector before any call holds the empty history. -/
theorem Collector.new_holds (argument : Nat)
    : (Collector.new argument).Holds [] := by
  constructor
  · intro name _
    rfl
  · intro name occurred
    exact absurd rfl occurred

/-- A further call joins the calls of its own name only. -/
theorem callsNamed_append (name : String) (calls : List FinishedCall) (call : FinishedCall)
    : callsNamed name (calls ++ [call])
      = if name = normalizeMethod call.method then callsNamed name calls ++ [call]
        else callsNamed name calls := by
  by_cases same : name = normalizeMethod call.method
  · simp [callsNamed, same]
  · simp [callsNamed, same, Ne.symm same]

/-- Recording a call that is taken keeps a collector in step with its calls, by cases on the name
asked for.
-/
theorem Collector.Holds.record {c : Collector} {calls : List FinishedCall}
    (h : c.Holds calls) {call : FinishedCall} (taken : c.takes call.method = true)
    : (c.recordCall call).Holds (calls ++ [call]) := by
  constructor
  · intro name none
    rw [callsNamed_append] at none
    split at none
    · simp at none
    · next other => rw [get?_recordCall taken, if_neg other, h.absent name none]
  · intro name occurred
    rw [callsNamed_append] at occurred ⊢
    rw [get?_recordCall taken, recordCall_capacity]
    split
    · exact ⟨_, rfl, (h.tally name).record c.capacity_pos call⟩
    · next other =>
      rw [if_neg other] at occurred
      exact h.present name occurred

/-- A collector holds the calls that it was told of and took, by induction on their arrival. -/
theorem Collector.foldl_holds {c : Collector} {before : List FinishedCall}
    (h : c.Holds before) (calls : List FinishedCall)
    : (calls.foldl Collector.recordCall c).Holds (before ++ c.taken calls) := by
  induction calls generalizing c before with
  | nil => simpa [taken] using h
  | cons call rest ih =>
      rw [List.foldl_cons]
      cases taken : c.takes call.method with
      | true =>
          have later := ih (h.record taken)
          rw [taken_recordCall, List.append_assoc] at later
          simpa [Collector.taken, taken] using later
      | false =>
          have idle : c.recordCall call = c := record_of_refused taken
          rw [idle]
          simpa [Collector.taken, taken] using ih h

/-- A new collector holds the calls that it was told of, if its windows can be made, and else
none.
-/
theorem Collector.holds_run (argument : Nat) (history : List CollectorEvent)
    : ((new argument).run history).1.Holds ((new argument).taken (recordedCalls history)) := by
  rw [run_fst, ← List.nil_append ((new argument).taken _)]
  exact foldl_holds (new_holds argument) _

-----------------------------------------------------------------------------------------
-- Rows
-----------------------------------------------------------------------------------------

/-- A row and the latencies behind it account for the calls of one name: the row tells how
many they are, how many of them failed and the quotient of the two, and the reported
percentile of the newest latencies that there is room for.
-/
structure Row.AccountsFor (row : Row) (capacity : Nat) (latencies : List Binary64)
    (calls : List FinishedCall) : Prop where
  requests : row.requests = calls.length
  errors : row.errors = calls.countP fun call => call.outcome ≠ .ok
  errors_le : row.errors ≤ row.requests
  newest
    : latencies
      = (calls.map fun call => call.latency.latencyMs).rtake (min row.requests capacity)
  length_newest : latencies.length = min row.requests capacity
  p95 : row.p95 = Percentile.p95 latencies
  errorRate : row.errorRate = (Binary64.ofNat row.errors).div (Binary64.ofNat row.requests)

/-- The newest values that there is room for are as many as there are, if these are fewer. -/
theorem rtake_min {α : Type} (xs : List α) (n : Nat)
    : xs.rtake (min xs.length n) = xs.rtake n := by
  simp only [List.rtake]
  congr 1
  omega

/-- The row of a tally accounts for the calls that the tally holds, if there are any. -/
theorem Tally.Holds.row {t : Tally} {capacity : Nat} {calls : List FinishedCall}
    (h : t.Holds capacity calls) (occurred : calls ≠ []) (method : String)
    : (t.row method).AccountsFor capacity t.window.toList calls := by
  have positive : 0 < t.requests := h.requests ▸ List.length_pos_iff.mpr occurred
  constructor
  · exact h.requests
  · simp [Tally.row, h.errors, Outcome.isError, bne, beq_eq_decide]
  · simpa [Tally.row, h.errors, h.requests] using List.countP_le_length
  · change _ = List.rtake _ (min t.requests capacity)
    rw [h.requests, h.window, ← rtake_min, List.length_map]
  · change _ = min t.requests capacity
    rw [h.requests, h.length_window]
  · rfl
  · simp [Tally.row, Tally.errorRate, positive]

theorem Collector.mem_rows_iff {c : Collector} {row : Row}
    : row ∈ c.rows
      ↔ ∃ tally, c.tallies.get? row.method = some tally ∧ tally.row row.method = row := by
  constructor
  · intro member
    obtain ⟨⟨name, tally⟩, entry, rfl⟩ := List.mem_map.mp member
    exact ⟨tally, Ledger.mem_entries_iff.mp entry, rfl⟩
  · rintro ⟨tally, found, same⟩
    exact List.mem_map.mpr ⟨_, Ledger.mem_entries_iff.mpr found, same⟩

/-- The rows of a collector ascend by the bytes of their names. -/
theorem Collector.pairwise_rows (c : Collector)
    : c.rows.Pairwise fun a b => Text.Utf8.ofText a.method < Text.Utf8.ofText b.method := by
  rw [rows, List.pairwise_map]
  exact c.tallies.ascending.imp Text.Utf8.ofText_lt_ofText

/-- Two rows of a collector with one name are one row. -/
theorem Collector.eq_of_mem_rows {c : Collector} {a b : Row} (ha : a ∈ c.rows)
    (hb : b ∈ c.rows) (same : a.method = b.method)
    : a = b := by
  obtain ⟨first, foundFirst, rowFirst⟩ := mem_rows_iff.mp ha
  obtain ⟨second, foundSecond, rowSecond⟩ := mem_rows_iff.mp hb
  rw [← same, foundFirst] at foundSecond
  rw [← rowFirst, ← rowSecond, Option.some.inj foundSecond, same]

/-- A snapshot of a collector finds the row of a name, if there is one. -/
theorem Collector.find?_snapshot {c : Collector} {now : Time.Instant} {name : String}
    {row : Row}
    : (c.snapshot now).find? name = some row ↔ row ∈ c.rows ∧ row.method = name := by
  constructor
  · intro found
    exact ⟨List.mem_of_find?_eq_some found, by simpa using List.find?_some found⟩
  · rintro ⟨member, rfl⟩
    have some : ((c.snapshot now).find? row.method).isSome := by
      rw [Snapshot.find?, List.find?_isSome]
      exact ⟨row, member, by simp⟩
    obtain ⟨other, found⟩ := Option.isSome_iff_exists.mp some
    have same : other.method = row.method := by simpa using List.find?_some found
    rw [found, eq_of_mem_rows (List.mem_of_find?_eq_some found) member same]

/-- The names of the rows of a collector are those of the calls that it holds. -/
theorem Collector.Holds.exists_row_iff {c : Collector} {calls : List FinishedCall}
    (h : c.Holds calls) {name : String}
    : (∃ row ∈ c.rows, row.method = name)
      ↔ ∃ call ∈ calls, normalizeMethod call.method = name := by
  have occurs : (∃ call ∈ calls, normalizeMethod call.method = name)
      ↔ callsNamed name calls ≠ [] := by
    simp [callsNamed, List.filter_eq_nil_iff]
  rw [occurs]
  constructor
  · rintro ⟨row, member, rfl⟩ none
    obtain ⟨tally, found, -⟩ := mem_rows_iff.mp member
    rw [h.absent row.method none] at found
    cases found
  · intro occurred
    obtain ⟨tally, found, -⟩ := h.present name occurred
    exact ⟨tally.row name, mem_rows_iff.mpr ⟨tally, found, rfl⟩, rfl⟩

/-- A name has as many calls as it occurs among the names of the calls. -/
theorem length_callsNamed_eq_count (name : String) (calls : List FinishedCall)
    : (callsNamed name calls).length
      = (calls.map fun call => normalizeMethod call.method).count name := by
  rw [callsNamed, ← List.countP_eq_length_filter, List.count, List.countP_map]
  rfl

/-- The rows whose names are of some kind report all calls of that kind: no name has two rows,
and the names of the rows are those of the calls.
-/
theorem Collector.Holds.sum_requests {c : Collector} {calls : List FinishedCall}
    (h : c.Holds calls) (kind : String → Bool)
    : ((c.rows.filter fun row => kind row.method).map Row.requests).sum
      = calls.countP fun call => kind (normalizeMethod call.method) := by
  let names := calls.map fun call => normalizeMethod call.method
  have distinct : (c.rows.map Row.method).Nodup := by
    rw [rows, List.map_map]
    exact List.pairwise_map.mpr (c.tallies.ascending.imp String.ne_of_lt)
  have same : (c.rows.map Row.method).Perm names.dedup := by
    refine (List.perm_ext_iff_of_nodup distinct (List.nodup_dedup names)).mpr fun name => ?_
    have occurs : (∃ row ∈ c.rows, row.method = name)
        ↔ ∃ call ∈ calls, normalizeMethod call.method = name := h.exists_row_iff
    rw [List.mem_dedup]
    simpa [names] using occurs
  have counts : ∀ row ∈ c.rows, row.requests = names.count row.method := by
    intro row member
    obtain ⟨tally, found, row_eq⟩ := mem_rows_iff.mp member
    have holds := h.tally row.method
    rw [found, Option.getD_some] at holds
    rw [← length_callsNamed_eq_count, ← holds.requests, ← row_eq]
    rfl
  calc
    ((c.rows.filter fun row => kind row.method).map Row.requests).sum
      = (((c.rows.map Row.method).filter kind).map fun name => names.count name).sum := by
        rw [List.filter_map, List.map_map]
        exact congrArg List.sum (List.map_congr_left fun row member =>
          counts row (List.mem_of_mem_filter member))
    _ = ((names.dedup.filter kind).map fun name => names.count name).sum :=
        ((same.filter kind).map _).sum_eq
    _ = names.countP kind := List.sum_map_count_dedup_filter_eq_countP kind names
    _ = calls.countP fun call => kind (normalizeMethod call.method) := List.countP_map

-----------------------------------------------------------------------------------------
-- Snapshots
-----------------------------------------------------------------------------------------

/-- What a snapshot of a collector tells of the calls that it was told of.

- `occurred`: every name that occurred has exactly one row;
- `only`: there is no other row;
- `ascending`: the rows ascend by the bytes of their names;
- `accounts`: every row accounts for the calls of its name, with counts that fit their word;
- `found`: a look-up finds exactly the row of a name.
-/
structure Collector.Tells (c : Collector) (capacity : Nat) (calls : List FinishedCall)
    (now : Time.Instant) : Prop where
  occurred :
    ∀ call ∈ calls,
      ∃! row, row ∈ (c.snapshot now).rows ∧ row.method = normalizeMethod call.method
  only : ∀ row ∈ (c.snapshot now).rows, ∃ call ∈ calls, normalizeMethod call.method = row.method
  ascending :
    (c.snapshot now).rows.Pairwise fun a b =>
      Text.Utf8.ofText a.method < Text.Utf8.ofText b.method
  accounts :
    ∀ row ∈ (c.snapshot now).rows,
      row.requests < twoPow 64
      ∧ ∃ tally,
          c.tallies.get? row.method = some tally
          ∧ row.AccountsFor capacity tally.window.toList (callsNamed row.method calls)
  found :
    ∀ name row,
      (c.snapshot now).find? name = some row ↔ row ∈ (c.snapshot now).rows ∧ row.method = name

/-- A collector that holds few enough calls tells them in its snapshots. -/
theorem Collector.Holds.tells {c : Collector} {calls : List FinishedCall} (h : c.Holds calls)
    (few : calls.length < twoPow 64) (now : Time.Instant)
    : c.Tells c.capacity calls now := by
  refine ⟨?_, ?_, c.pairwise_rows, ?_, fun _ _ => find?_snapshot⟩
  · intro call member
    obtain ⟨row, inRows, named⟩ := h.exists_row_iff.mpr ⟨call, member, rfl⟩
    exact ⟨row, ⟨inRows, named⟩, fun other h => eq_of_mem_rows h.1 inRows (h.2.trans named.symm)⟩
  · intro row member
    exact h.exists_row_iff.mp ⟨row, member, rfl⟩
  · intro row member
    obtain ⟨tally, found, same⟩ := mem_rows_iff.mp member
    have occurred : callsNamed row.method calls ≠ [] := by
      intro none
      rw [h.absent row.method none] at found
      cases found
    obtain ⟨_, found', counts⟩ := h.present row.method occurred
    cases found.symm.trans found'
    have accounts := counts.row occurred row.method
    rw [same] at accounts
    refine ⟨?_, tally, found, accounts⟩
    calc
      row.requests = (callsNamed row.method calls).length := accounts.requests
      _ ≤ calls.length := List.length_filter_le _ _
      _ < twoPow 64 := few

/-- A collector that holds no calls has no rows. -/
theorem Collector.Holds.rows_eq_nil {c : Collector} (h : c.Holds [])
    : c.rows = [] := by
  rw [List.eq_nil_iff_forall_not_mem]
  intro row member
  obtain ⟨call, none, -⟩ := h.exists_row_iff.mp ⟨row, member, rfl⟩
  cases none

/-- Where a row is shown the windows can be made, so every call was taken. -/
theorem Collector.holds_of_mem_rows {argument : Nat} {history : List CollectorEvent} {row : Row}
    (member : row ∈ ((new argument).run history).1.rows)
    : (new argument).Fits ∧ ((new argument).run history).1.Holds (recordedCalls history) := by
  have holds := holds_run argument history
  by_cases fits : (new argument).Fits
  · rw [fits.taken] at holds
    exact ⟨fits, holds⟩
  · rw [taken_new fits] at holds
    rw [holds.rows_eq_nil] at member
    cases member

/-- A snapshot tells the history of its collector. If the windows can be made, since their bytes
can be counted by a signed word, no call breaks off and every snapshot tells the calls, whatever
was recorded and wherever snapshots were taken on the way. If they cannot, every call breaks off
and nothing is ever shown. Without the snapshots on the way the collector is the same.
-/
theorem Collector.snapshot_run (argument : Nat) (history : List CollectorEvent)
    (now : Time.Instant) (few : (recordedCalls history).length < twoPow 64)
    : let capacity := if argument = 0 then 512 else argument
      let calls := recordedCalls history
      let last := ((Collector.new argument).run history).1
      (∀ (before after : List CollectorEvent) (call : FinishedCall),
        history = before ++ .recorded call :: after
        → ((((Collector.new argument).run before).1.record? call.method call.outcome
              call.latency).isSome = true
            ↔ capacity < twoPow 60))
      ∧ (capacity < twoPow 60 → last.Tells capacity calls now)
      ∧ (twoPow 60 ≤ capacity → (last.snapshot now).rows = [])
      ∧ ((Collector.new argument).run (calls.map .recorded)).1 = last := by
  intro capacity calls last
  have folded : last = calls.foldl recordCall (Collector.new argument) := run_fst _ _
  have holds : last.Holds ((new argument).taken calls) := holds_run argument history
  refine ⟨?_, ?_, ?_, ?_⟩
  · intro before after call _
    rw [isSome_record?, run_fst, takes_foldl_recordCall, takes_new, decide_eq_true_iff, fits_new]
  · intro fits
    rw [(fits_new.mpr fits).taken] at holds
    have tells := holds.tells few now
    rw [folded, foldl_recordCall_capacity] at tells
    exact folded ▸ tells
  · intro large
    rw [taken_new (mt fits_new.mp (Nat.not_lt.mpr large))] at holds
    exact holds.rows_eq_nil
  · rw [run_fst, folded]
    simp [calls, recordedCalls, List.filterMap_map]

/-- A history with a padded and a blank name and a snapshot on the way. -/
def paddedHistory : List CollectorEvent :=
  [ .recorded ⟨" a ", .ok, .ofMillis 10⟩,
    .snapshotTaken default,
    .recorded ⟨"a", .internal, .ofMillis 20⟩,
    .recorded ⟨"\t", .ok, .ofMillis 5⟩,
    .recorded ⟨"a", .ok, .ofMillis 30⟩ ]

/-- With room for two latencies the row of the padded name counts three calls and reports on
the last two of them. With the greatest capacity that a signed word can tell, the first call
breaks off and there are no rows.
-/
theorem Collector.snapshot_run_paddedHistory
    : (recordedCalls paddedHistory).length < twoPow 64
      ∧ (∃ row ∈ (((Collector.new 2).run paddedHistory).1.snapshot default).rows,
          row.method = "a"
          ∧ row.requests = 3
          ∧ row.errors = 1
          ∧ row.p95
            = Percentile.p95
                [(Duration.ofMillis 20).latencyMs, (Duration.ofMillis 30).latencyMs])
      ∧ (Collector.new 9223372036854775807).record? " a " .ok (.ofMillis 10) = none
      ∧ (((Collector.new 9223372036854775807).run paddedHistory).1.snapshot default).rows = [] := by
  have few : (recordedCalls paddedHistory).length < twoPow 64 := by decide
  obtain ⟨-, fitting, -⟩ := Collector.snapshot_run 2 paddedHistory default few
  obtain ⟨breaks, -, large, -⟩ :=
    Collector.snapshot_run 9223372036854775807 paddedHistory default few
  have tells := fitting (by decide)
  obtain ⟨row, ⟨member, named⟩, -⟩ :=
    tells.occurred ⟨" a ", .ok, .ofMillis 10⟩ (by simp [paddedHistory, recordedCalls])
  replace named : row.method = "a" := named.trans (by decide)
  obtain ⟨-, tally, -, figures⟩ := tells.accounts row member
  have calls : callsNamed row.method (recordedCalls paddedHistory)
      = [⟨" a ", .ok, .ofMillis 10⟩, ⟨"a", .internal, .ofMillis 20⟩, ⟨"a", .ok, .ofMillis 30⟩] := by
    rw [named]
    rfl
  rw [calls] at figures
  refine ⟨few, ⟨row, member, named, figures.requests, figures.errors.trans (by decide), ?_⟩, ?_,
    large (by decide)⟩
  · rw [figures.p95, figures.newest, figures.requests]
    rfl
  · have refused := mt (breaks [] _ ⟨" a ", .ok, .ofMillis 10⟩ rfl).mp (by decide)
    rwa [Bool.not_eq_true, Option.isSome_eq_false_iff, Option.isNone_iff_eq_none] at refused

end CallWatch
