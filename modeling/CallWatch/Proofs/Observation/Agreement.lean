import CallWatch.Proofs.Collector.History
import CallWatch.Proofs.Collector.Name
import CallWatch.Proofs.Json.Roundtrip
import CallWatch.Proofs.Observation.Overlap

/-! The counters and the log agree.
Every observed call that ends is counted once and logged once, so while no completion is at
work the figures of a snapshot are those that a reader of the lines finds. Where the windows of
the collector cannot be made, every call breaks off and there is nothing to agree on.
-/

namespace CallWatch

-----------------------------------------------------------------------------------------
-- What the effects add up to
-----------------------------------------------------------------------------------------

/-- The call that the collector is told of by an effect. -/
def Effect.counted? : Effect → Option FinishedCall
  | .count k => some ⟨k.call.name, k.outcome, k.elapsed⟩
  | .log .. => none

def Effect.record? : Effect → Option Record
  | .count _ => none
  | .log k now => some (.access (k.call.record k.outcome k.elapsed now))

def countedCalls (done : List (Nat × Effect)) : List FinishedCall :=
  done.filterMap fun entry => entry.2.counted?

def writtenRecords (done : List (Nat × Effect)) : List Record :=
  done.filterMap fun entry => entry.2.record?

/-- The collector is told of the counted calls and of nothing else, by induction on the
effects.
-/
theorem collector_foldl_apply (o : Observatory) (done : List (Nat × Effect))
    : (done.foldl (fun o entry => entry.2.apply o) o).collector
      = o.collector.map fun c => (countedCalls done).foldl Collector.recordCall c := by
  induction done generalizing o with
  | nil => simp [countedCalls]
  | cons entry rest ih =>
      obtain ⟨id, effect⟩ := entry
      rw [List.foldl_cons, ih]
      cases effect with
      | count k => simp [countedCalls, Effect.counted?, Effect.apply, Collector.recordCall,
          Function.comp_def]
      | log k now => simp [countedCalls, Effect.counted?, Effect.apply, Observatory.log]

/-- The journal grows by the written records and by nothing else, by induction on the
effects.
-/
theorem journal_foldl_apply (o : Observatory) (done : List (Nat × Effect))
    : (done.foldl (fun o entry => entry.2.apply o) o).journal.toList
      = o.journal.toList ++ writtenRecords done := by
  induction done generalizing o with
  | nil => simp [writtenRecords]
  | cons entry rest ih =>
      obtain ⟨id, effect⟩ := entry
      rw [List.foldl_cons, ih]
      cases effect with
      | count k => simp [writtenRecords, Effect.record?, Effect.apply]
      | log k now => simp [writtenRecords, Effect.record?, Effect.apply, Observatory.log]

-----------------------------------------------------------------------------------------
-- Reading the log
-----------------------------------------------------------------------------------------

def lineMethod? (line : String) : Option String :=
  Json.textMember? "method" line

def lineStatus? (line : String) : Option String :=
  Json.textMember? "status" line

/-- The line of an access record shows the method of the record. -/
theorem lineMethod?_access (r : AccessRecord)
    : lineMethod? (Record.access r).line = some r.method := by
  simp only [lineMethod?, Json.textMember?, Record.line, Json.form?_line, Record.json,
    AccessRecord.json, Json.form, Json.memberForms, Option.bind_some]
  simp [Json.Form.member?, Json.Form.text?, List.lookup_cons]

/-- The line of an access record shows the status of the record. -/
theorem lineStatus?_access (r : AccessRecord)
    : lineStatus? (Record.access r).line = some r.status := by
  simp only [lineStatus?, Json.textMember?, Record.line, Json.form?_line, Record.json,
    AccessRecord.json, Json.form, Json.memberForms, Option.bind_some]
  simp [Json.Form.member?, Json.Form.text?, List.lookup_cons]

theorem Outcome.name_eq_ok_iff (o : Outcome)
    : o.name = "OK" ↔ o = .ok := by
  cases o <;> decide

-----------------------------------------------------------------------------------------
-- Counting on both sides
-----------------------------------------------------------------------------------------

def Completion.isNamed (name : String) (k : Completion) : Bool :=
  k.call.name = name

/-- The completion is of a call under a name that failed. -/
def Completion.isFailure (name : String) (k : Completion) : Bool :=
  k.isNamed name && k.outcome.isError

/-- The name of a call is normalized already, so the collector counts it under the name that
is logged.
-/
theorem normalizeMethod_name (call : Call)
    : normalizeMethod call.name = call.name :=
  normalizeMethod_idem _

/-- As many calls are counted under a name as there are effects that count one. -/
theorem length_callsNamed (name : String) (done : List (Nat × Effect))
    : (callsNamed name (countedCalls done)).length
      = done.countP fun entry => entry.2.counts (Completion.isNamed name) := by
  rw [callsNamed, ← List.countP_eq_length_filter, countedCalls, List.countP_filterMap]
  refine List.countP_congr fun entry _ => ?_
  obtain ⟨id, effect⟩ := entry
  cases effect with
  | count k =>
      simp [Effect.counted?, Effect.counts, Completion.isNamed, normalizeMethod_name]
  | log k now => simp [Effect.counted?, Effect.counts]

theorem countP_callsNamed (name : String) (done : List (Nat × Effect))
    : (callsNamed name (countedCalls done)).countP (fun call => call.outcome.isError)
      = done.countP fun entry => entry.2.counts (Completion.isFailure name) := by
  rw [callsNamed, List.countP_filter, countedCalls, List.countP_filterMap]
  refine List.countP_congr fun entry _ => ?_
  obtain ⟨id, effect⟩ := entry
  cases effect with
  | count k =>
      simp [Effect.counted?, Effect.counts, Completion.isFailure, Completion.isNamed,
        normalizeMethod_name, and_comm]
  | log k now => simp [Effect.counted?, Effect.counts]

/-- As many lines show a method as there are effects that log it. -/
theorem countP_lineMethod? (name : String) (done : List (Nat × Effect))
    : ((writtenRecords done).map Record.line).countP (fun line => lineMethod? line = some name)
      = done.countP fun entry => entry.2.logs (Completion.isNamed name) := by
  rw [List.countP_map, writtenRecords, List.countP_filterMap]
  refine List.countP_congr fun entry _ => ?_
  obtain ⟨id, effect⟩ := entry
  cases effect with
  | count k => simp [Effect.record?, Effect.logs]
  | log k now =>
      simp [Effect.record?, Effect.logs, lineMethod?_access, Call.record, Completion.isNamed]

theorem countP_lineStatus? (name : String) (done : List (Nat × Effect))
    : ((writtenRecords done).map Record.line).countP
        (fun line => lineMethod? line = some name && lineStatus? line ≠ some "OK")
      = done.countP fun entry => entry.2.logs (Completion.isFailure name) := by
  rw [List.countP_map, writtenRecords, List.countP_filterMap]
  refine List.countP_congr fun entry _ => ?_
  obtain ⟨id, effect⟩ := entry
  cases effect with
  | count k => simp [Effect.record?, Effect.logs]
  | log k now =>
      simp [Effect.record?, Effect.logs, lineMethod?_access, lineStatus?_access, Call.record,
        Completion.isFailure, Completion.isNamed, Outcome.name_eq_ok_iff, Outcome.isError]

-----------------------------------------------------------------------------------------
-- The figures of a snapshot
-----------------------------------------------------------------------------------------

/-- The number of calls that a snapshot reports under a name. -/
def Snapshot.requests (name : String) (s : Snapshot) : Nat :=
  (s.find? name).elim 0 Row.requests

/-- The number of failed calls that a snapshot reports under a name. -/
def Snapshot.errors (name : String) (s : Snapshot) : Nat :=
  (s.find? name).elim 0 Row.errors

/-- A snapshot reports the calls that its collector was told of, by cases on whether there
are any under the name.
-/
theorem Collector.Holds.figures {c : Collector} {calls : List FinishedCall} (h : c.Holds calls)
    (now : Time.Instant) (name : String)
    : (c.snapshot now).requests name = (callsNamed name calls).length
      ∧ (c.snapshot now).errors name
        = (callsNamed name calls).countP fun call => call.outcome.isError := by
  cases found : (c.snapshot now).find? name with
  | none =>
      have none : callsNamed name calls = [] := by
        by_contra occurred
        obtain ⟨call, member⟩ := List.exists_mem_of_ne_nil _ occurred
        obtain ⟨inside, named⟩ := List.mem_filter.mp member
        obtain ⟨row, known, same⟩ :=
          h.exists_row_iff.mpr ⟨call, inside, of_decide_eq_true named⟩
        cases found.symm.trans (find?_snapshot.mpr ⟨known, same⟩)
      simp [Snapshot.requests, Snapshot.errors, found, none]
  | some row =>
      obtain ⟨member, rfl⟩ := find?_snapshot.mp found
      obtain ⟨tally, known, same⟩ := mem_rows_iff.mp member
      have holds := h.tally row.method
      rw [known, Option.getD_some] at holds
      simp only [Snapshot.requests, Snapshot.errors, found, Option.elim_some]
      exact ⟨(congrArg Row.requests same).symm.trans holds.requests,
        (congrArg Row.errors same).symm.trans holds.errors⟩

-----------------------------------------------------------------------------------------
-- Observation
-----------------------------------------------------------------------------------------

namespace Airspace

variable {α : Type} [Classified α]

/-- An observatory with a collector of some capacity, or with none, and an empty journal. -/
def fresh (capacity? : Option Nat) : Observatory :=
  ⟨capacity?.map Collector.new, #[]⟩

/-- The calls after a history, observed from a fresh observatory on. -/
def flown (wall : WallClock) (capacity? : Option Nat) (history : List (Duration × CallEvent α))
    : Airspace α :=
  (quiet (fresh capacity?)).run wall history

/-- The effects of a history that begins with a fresh observatory. -/
def trace (wall : WallClock) (capacity? : Option Nat) (history : List (Duration × CallEvent α))
    : List (Nat × Effect) :=
  effects wall (quiet (fresh capacity?)) history

/-- What observation gives after a history of calls that overlap, if the windows of the collector
can be made, and if they cannot.

- `live`: if they can, the process goes on;
- `ended`: while it does, a running call ends with its first step that ends it, in the way of
  that step;
- `caused`: a call has ended only by such a step of its own;
- `returned`: a value that the caller gets is the one that the handler returned;
- `unpolled`: a future that is dropped before its first poll has no effect, now or ever;
- `goes`: if the windows can be made, a completion at work goes on: whatever the other calls do,
  the next count of its call and the next record after it bring it to its end;
- `once`: then a call whose completion is over gives its caller what ended it, and it has been
  counted once and then logged once, with the outcome of its ending and the same latency;
- `halfway`: one whose completion is at work has been counted at most, and not logged;
- `silent`: any other call has had no effect;
- `breaks`: if the windows cannot be made, the count of a call breaks it off for good, and its
  caller gets a panic;
- `nothing`: then nothing is ever counted or logged, and no handler's value gets to a caller;
- `aborted`: once a call that a panic completes has been broken off, nothing happens any more;
- `collector` and `lines`: the collector is told of what has been counted and the lines are
  what has been logged, in the order of the effects;
- `agreement`: while no completion is at work a snapshot reports under every name as many
  calls as lines show the name, and as many failures as such lines show a status other than
  `OK`.
-/
structure ObservationLaw (wall : WallClock) (capacity? : Option Nat)
    (history : List (Duration × CallEvent α)) : Prop where
  live : (fresh capacity?).Fits → (flown wall capacity? history).halted = false
  ended :
    ∀ (before after : List (Duration × CallEvent α)) (now : Duration) (id : Nat)
        (step : CallStep α) (c : ObservedCall α) (ending : Ending α),
      history = before ++ (now, .step id step) :: after
      → (flown wall capacity? before).halted = false
      → (flown wall capacity? before).calls[id]? = some c
      → c.stage.isRunning = true → step.ending? c.mode = some ending
      → ∃ d, (flown wall capacity? history).calls[id]? = some d
          ∧ d.stage.ending? = some ending
  caused :
    ∀ (id : Nat) (c : ObservedCall α) (ending : Ending α),
      (flown wall capacity? history).calls[id]? = some c
      → c.stage.ending? = some ending
      → ∃ now step, (now, .step id step) ∈ history ∧ step.ending? c.mode = some ending
  returned :
    ∀ (id : Nat) (c : ObservedCall α) (value : α),
      (flown wall capacity? history).calls[id]? = some c
      → c.stage.result? = some (.returned value)
      → ∃ now, (now, .step id (.finish value)) ∈ history
  unpolled :
    ∀ (before after : List (Duration × CallEvent α)) (now : Duration) (id : Nat)
        (unwinding : Bool) (call : Call),
      history = before ++ (now, .step id (.drop unwinding)) :: after
      → (flown wall capacity? before).calls[id]?
          = some ⟨.future, call, .unpolled⟩
      → effectsOf id (trace wall capacity? history) = []
  goes :
    (fresh capacity?).Fits
    → ∀ (before middle after : List (Duration × CallEvent α)) (now later : Duration) (id : Nat)
          (c : ObservedCall α) (ending : Ending α),
        history = before ++ (now, .step id .count) :: (middle ++ (later, .step id .log) :: after)
        → (flown wall capacity? before).calls[id]? = some c
        → c.stage.ending? = some ending
        → ∃ d, (flown wall capacity? history).calls[id]? = some d ∧ d.stage = .ended ending
  once :
    (fresh capacity?).Fits
    → ∀ (id : Nat) (c : ObservedCall α) (ending : Ending α),
        (flown wall capacity? history).calls[id]? = some c
        → c.stage.ending? = some ending → c.stage.completing = false
        → c.stage.result? = some ending
          ∧ ∃ (k : Completion) (now : Time.Instant),
              effectsOf id (trace wall capacity? history) = [.count k, .log k now]
              ∧ k.call = c.call
              ∧ k.outcome = outcome ending
  halfway :
    ∀ (id : Nat) (c : ObservedCall α),
      (flown wall capacity? history).calls[id]? = some c
      → c.stage.completing = true
      → effectsOf id (trace wall capacity? history) = []
        ∨ ∃ k, effectsOf id (trace wall capacity? history) = [.count k] ∧ k.call = c.call
  silent :
    ∀ (id : Nat) (c : ObservedCall α),
      (flown wall capacity? history).calls[id]? = some c
      → c.stage.ending? = none
      → effectsOf id (trace wall capacity? history) = []
  breaks :
    ¬ (fresh capacity?).Fits
    → ∀ (before after : List (Duration × CallEvent α)) (now : Duration) (id : Nat)
          (c : ObservedCall α) (ending : Ending α),
        history = before ++ (now, .step id .count) :: after
        → (flown wall capacity? before).halted = false
        → (flown wall capacity? before).calls[id]? = some c
        → c.stage.ending? = some ending
        → ∃ d, (flown wall capacity? history).calls[id]? = some d
            ∧ d.stage = .broken ending
            ∧ d.stage.result? = some .panicked
  nothing :
    ¬ (fresh capacity?).Fits
    → trace wall capacity? history = []
      ∧ ∀ c ∈ (flown wall capacity? history).calls, ∀ value,
          c.stage.result? ≠ some (.returned value)
  aborted :
    ∀ (before after : List (Duration × CallEvent α)),
      history = before ++ after
      → (∃ c ∈ (flown wall capacity? before).calls, c.stage = .broken .panicked)
      → flown wall capacity? history = flown wall capacity? before
  collector :
    (flown wall capacity? history).observatory.collector
      = capacity?.map fun capacity =>
          (countedCalls (trace wall capacity? history)).foldl Collector.recordCall
            (Collector.new capacity)
  lines :
    (flown wall capacity? history).observatory.lines
      = (writtenRecords (trace wall capacity? history)).map Record.line
  agreement :
    ∀ (collector : Collector) (now : Time.Instant) (name : String),
      (flown wall capacity? history).observatory.collector = some collector
      → (∀ c ∈ (flown wall capacity? history).calls, c.stage.completing = false)
      → (collector.snapshot now).requests name
          = (flown wall capacity? history).observatory.lines.countP
              (fun line => lineMethod? line = some name)
        ∧ (collector.snapshot now).errors name
          = (flown wall capacity? history).observatory.lines.countP
              (fun line => lineMethod? line = some name && lineStatus? line ≠ some "OK")

section
variable {wall : WallClock} {capacity? : Option Nat} {history : List (Duration × CallEvent α)}

theorem flown_keeps (wall : WallClock) (capacity? : Option Nat)
    (history : List (Duration × CallEvent α))
    : (flown wall capacity? history).Keeps (fresh capacity?) history
        (trace wall capacity? history) :=
  (quiet_keeps (fresh capacity?)).run wall history

/-- A history goes on from where its first part has got. -/
theorem flown_append (wall : WallClock) (capacity? : Option Nat)
    (before after : List (Duration × CallEvent α))
    : flown wall capacity? (before ++ after) = (flown wall capacity? before).run wall after :=
  List.foldl_append

/-- A fresh observatory whose windows cannot be made takes no call. -/
theorem takes_fresh_of_not_fits (large : ¬ (fresh capacity?).Fits) (call : Call)
    : (fresh capacity?).takes call = false := by
  cases capacity? with
  | none => exact absurd nofun large
  | some capacity =>
      refine Observatory.takes_new (fun room => large ?_) rfl call
      rintro _ ⟨rfl⟩
      exact room

/-- A future that is dropped before its first poll stays dropped, so it has no effect: it has had
none if the process has ended before.
-/
theorem effectsOf_discarded (wall : WallClock) (unwinding : Bool)
    {before : List (Duration × CallEvent α)} {now : Duration} {id : Nat} {call : Call}
    (found : (flown wall capacity? before).calls[id]? = some ⟨.future, call, .unpolled⟩)
    (after : List (Duration × CallEvent α))
    : effectsOf id
        (trace wall capacity? (before ++ (now, .step id (.drop unwinding)) :: after)) = [] := by
  have keeps := flown_keeps wall capacity? (before ++ (now, .step id (.drop unwinding)) :: after)
  cases live : (flown wall capacity? before).halted with
  | true =>
      refine keeps.traced id ⟨.future, call, .unpolled⟩ ?_
      rw [flown_append, run_of_halted live, found]
  | false =>
      have begun : ((⟨.future, call, .unpolled⟩ : ObservedCall α).step
          (flown wall capacity? before).observatory.takes wall now (.drop unwinding)).1.stage
          = .discarded := rfl
      obtain ⟨d, known, discarded⟩ := run_establishes (p := fun c => c.stage = .discarded)
        (fun _ _ now step h =>
          (ObservedCall.step_over (congrArg Stage.result? h) wall now step).trans h)
        live found begun after
      rw [← flown_append] at known
      simpa only [ObservedCall.Traced, discarded] using keeps.traced id d known

-----------------------------------------------------------------------------------------
-- Windows that can be made
-----------------------------------------------------------------------------------------

/-- If the windows can be made no call is broken off, since it would have been taken. -/
theorem not_broken (fits : (fresh capacity?).Fits) {id : Nat} {c : ObservedCall α}
    (found : (flown wall capacity? history).calls[id]? = some c) (ending : Ending α)
    : c.stage ≠ .broken ending := by
  intro broken
  have traced := (flown_keeps wall capacity? history).traced id c found
  simp only [ObservedCall.Traced, broken, fits.takes] at traced
  cases traced.1

theorem live_flown (fits : (fresh capacity?).Fits)
    : (flown wall capacity? history).halted = false := by
  rw [halted, List.any_eq_false]
  intro c member aborts
  obtain ⟨id, inside, rfl⟩ := List.getElem_of_mem member
  refine not_broken fits (List.getElem?_eq_getElem inside) .panicked ?_
  unfold Stage.aborts at aborts
  split at aborts
  · assumption
  · cases aborts

/-- A completion at work comes to its end by its own count and its own record. -/
theorem goes_flown (fits : (fresh capacity?).Fits)
    {before middle after : List (Duration × CallEvent α)} {now later : Duration} {id : Nat}
    {c : ObservedCall α} {ending : Ending α}
    (found : (flown wall capacity? before).calls[id]? = some c)
    (ended : c.stage.ending? = some ending)
    : ∃ d, (flown wall capacity?
              (before ++ (now, .step id .count) :: (middle ++ (later, .step id .log) :: after))
            ).calls[id]? = some d
        ∧ d.stage = .ended ending := by
  have keeps := flown_keeps wall capacity? before
  have all (call : Call) : (flown wall capacity? before).observatory.takes call = true := by
    rw [keeps.taking]
    exact fits.takes call
  have ends : c.stage.EndsIn ending := (keeps.traced id c found).endsIn ended
  have counts := ObservedCall.step_count_of_taken all ends (not_broken fits found) wall now
  obtain ⟨m, known, counted⟩ := run_establishes (p := fun c => c.stage.Counted ending)
    (fun _ _ now step h => ObservedCall.step_counted h wall now step) (live_flown fits) found
    counts middle
  have halfway : before ++ (now, .step id .count) :: (middle ++ (later, .step id .log) :: after)
      = (before ++ (now, .step id .count) :: middle) ++ (later, .step id .log) :: after := by
    simp
  rw [← flown_append] at known
  rw [halfway, flown_append]
  refine run_establishes (p := fun c => c.stage = .ended ending) (fun _ c now step h => ?_)
    (live_flown fits) known (ObservedCall.step_log_of_counted counted wall later) after
  exact (ObservedCall.step_over (congrArg Stage.result? h) wall now step).trans h

-----------------------------------------------------------------------------------------
-- Windows that cannot be made
-----------------------------------------------------------------------------------------

/-- If the windows cannot be made nothing has an effect, by the trace of every call. -/
theorem trace_eq_nil (large : ¬ (fresh capacity?).Fits)
    : trace wall capacity? history = [] := by
  have keeps := flown_keeps wall capacity? history
  have none (id : Nat) : effectsOf id (trace wall capacity? history) = [] := by
    by_cases born : id < (flown wall capacity? history).calls.length
    · have traced := keeps.traced id _ (List.getElem?_eq_getElem born)
      exact (traced.untaken (takes_fresh_of_not_fits large)).1
    · exact keeps.unborn id (Nat.not_lt.mp born)
  rw [List.eq_nil_iff_forall_not_mem]
  rintro ⟨id, effect⟩ member
  have some : effect ∈ effectsOf id (trace wall capacity? history) :=
    List.mem_filterMap.mpr ⟨_, member, if_pos rfl⟩
  rw [none id] at some
  cases some

/-- Then the count of a call breaks it off. -/
theorem breaks_flown (large : ¬ (fresh capacity?).Fits)
    {before after : List (Duration × CallEvent α)} {now : Duration} {id : Nat}
    {c : ObservedCall α} {ending : Ending α}
    (live : (flown wall capacity? before).halted = false)
    (found : (flown wall capacity? before).calls[id]? = some c)
    (ended : c.stage.ending? = some ending)
    : ∃ d, (flown wall capacity? (before ++ (now, .step id .count) :: after)).calls[id]? = some d
        ∧ d.stage = .broken ending := by
  have keeps := flown_keeps wall capacity? before
  have none (call : Call) : (flown wall capacity? before).observatory.takes call = false := by
    rw [keeps.taking]
    exact takes_fresh_of_not_fits large call
  have traced := keeps.traced id c found
  rw [← keeps.taking] at traced
  rw [flown_append]
  refine run_establishes (p := fun c => c.stage = .broken ending) (fun _ c now step h => ?_)
    live found (ObservedCall.step_count_of_none none traced ended wall now) after
  exact (ObservedCall.step_over (congrArg Stage.result? h) wall now step).trans h

end

omit [Classified α] in
/-- While no completion is at work, no call owes a record. -/
theorem countP_owes_eq_zero {calls : List (ObservedCall α)}
    (idle : ∀ c ∈ calls, c.stage.completing = false) (kind : Completion → Bool)
    : calls.countP (fun c => c.stage.owes kind) = 0 := by
  rw [List.countP_eq_zero]
  intro c member owes
  have none := idle c member
  cases stage : c.stage with
  | logging => simp [stage, Stage.completing] at none
  | unpolled | running | counting | ended | broken | discarded =>
      simp [stage, Stage.owes] at owes

theorem lines_flown (wall : WallClock) (capacity? : Option Nat)
    (history : List (Duration × CallEvent α))
    : (flown wall capacity? history).observatory.lines
      = (writtenRecords (trace wall capacity? history)).map Record.line := by
  rw [Observatory.lines, (flown_keeps wall capacity? history).applied, journal_foldl_apply]
  rfl

/-- The collector has been told of the counted calls. -/
theorem collector_flown (wall : WallClock) (capacity? : Option Nat)
    (history : List (Duration × CallEvent α))
    : (flown wall capacity? history).observatory.collector
      = capacity?.map fun capacity =>
          (countedCalls (trace wall capacity? history)).foldl Collector.recordCall
            (Collector.new capacity) := by
  rw [(flown_keeps wall capacity? history).applied, collector_foldl_apply]
  cases capacity? <;> rfl

/-- While no completion is at work the figures of a snapshot are those of the lines: both
count the same completions, and a name reads back as it was counted.
-/
theorem agreement_flown (wall : WallClock) {capacity? : Option Nat}
    {history : List (Duration × CallEvent α)} {collector : Collector} (now : Time.Instant)
    (name : String)
    (present : (flown wall capacity? history).observatory.collector = some collector)
    (idle : ∀ c ∈ (flown wall capacity? history).calls, c.stage.completing = false)
    : (collector.snapshot now).requests name
        = (flown wall capacity? history).observatory.lines.countP
            (fun line => lineMethod? line = some name)
      ∧ (collector.snapshot now).errors name
        = (flown wall capacity? history).observatory.lines.countP
            (fun line => lineMethod? line = some name && lineStatus? line ≠ some "OK") := by
  rw [collector_flown] at present
  obtain ⟨capacity, rfl, rfl⟩ := Option.map_eq_some_iff.mp present
  have holds :=
    Collector.foldl_holds (Collector.new_holds capacity)
      (countedCalls (trace wall (some capacity) history))
  have counted : (Collector.new capacity).taken (countedCalls (trace wall (some capacity) history))
      = countedCalls (trace wall (some capacity) history) := by
    by_cases fits : (fresh (some capacity)).Fits
    · exact (fits _ rfl).taken _
    · rw [trace_eq_nil fits]
      rfl
  rw [counted] at holds
  obtain ⟨requests, errors⟩ := holds.figures now name
  have balanced := (flown_keeps wall (some capacity) history).balanced
  simp only [countP_owes_eq_zero idle, Nat.add_zero] at balanced
  rw [requests, errors, lines_flown, countP_lineMethod?, countP_lineStatus?, List.nil_append,
    length_callsNamed, countP_callsNamed]
  exact ⟨balanced _, balanced _⟩

/-- Whatever the order of events, every observed call is counted once and logged once, and the
counters and the log agree, if the windows of the collector can be made; if they cannot, every
call breaks off and nothing is counted or logged.
-/
theorem observationLaw (wall : WallClock) (capacity? : Option Nat)
    (history : List (Duration × CallEvent α))
    : ObservationLaw wall capacity? history := by
  have keeps := flown_keeps wall capacity? history
  constructor
  · exact live_flown
  · rintro before after now id step c ending rfl live found running ends
    rw [flown_append]
    obtain ⟨d, known, final⟩ := run_establishes (p := fun c => c.stage.EndsIn ending)
      (fun _ _ now step ended => ObservedCall.step_endsIn ended wall now step) live found
      (ObservedCall.step_ends running ends wall now) after
    exact ⟨d, known, final.ending?⟩
  · intro id c ending found ended
    exact keeps.caused id c ending found ended
  · intro id c value found result
    obtain ⟨now, step, known, ends⟩ :=
      keeps.caused id c _ found (Stage.ending?_of_returned result)
    obtain rfl := CallStep.eq_finish ends
    exact ⟨now, known⟩
  · rintro before after now id unwinding call rfl found
    exact effectsOf_discarded wall unwinding found after
  · rintro fits before middle after now later id c ending rfl found ended
    exact goes_flown fits found ended
  · intro fits id c ending found ended idle
    have traced := keeps.traced id c found
    have whole := not_broken fits found
    obtain ⟨mode, call, stage⟩ := c
    cases stage with
    | unpolled | running | discarded => cases ended
    | counting | logging => cases idle
    | broken e => exact absurd rfl (whole e)
    | ended =>
        cases ended
        obtain ⟨-, k, instant, done, own⟩ := traced
        exact ⟨rfl, k, instant, done, own.sameCall, own.sameOutcome⟩
  · intro id c found completing
    have traced := keeps.traced id c found
    obtain ⟨mode, call, stage⟩ := c
    cases stage with
    | unpolled | running | discarded | ended | broken => cases completing
    | counting => exact Or.inl traced.1
    | logging k => exact Or.inr ⟨k, traced.2.1, traced.2.2.1.sameCall⟩
  · intro id c found unended
    have traced := keeps.traced id c found
    obtain ⟨mode, call, stage⟩ := c
    cases stage with
    | counting | logging | ended | broken => cases unended
    | unpolled | discarded => exact traced
    | running => exact traced.1
  · rintro large before after now id c ending rfl live found ended
    obtain ⟨d, known, broken⟩ := breaks_flown large live found ended
    exact ⟨d, known, broken, by rw [broken, Stage.result?]⟩
  · intro large
    refine ⟨trace_eq_nil large, fun c member value result => ?_⟩
    obtain ⟨id, inside, rfl⟩ := List.getElem_of_mem member
    have traced := keeps.traced id _ (List.getElem?_eq_getElem inside)
    exact (traced.untaken (takes_fresh_of_not_fits large)).2 value result
  · rintro before after rfl ⟨c, member, broken⟩
    have halted : (flown wall capacity? before).halted = true :=
      List.any_eq_true.mpr ⟨c, member, by rw [broken, Stage.aborts]⟩
    rw [flown_append, run_of_halted halted]
  · exact collector_flown wall capacity? history
  · exact lines_flown wall capacity? history
  · intro collector now name present idle
    exact agreement_flown wall now name present idle

/-- Three futures that overlap: one returns a value that is an error, the handler of one panics,
and one is dropped, each completed in two halves with those of the others between them.
-/
def threeEndings : List (Duration × CallEvent Outcome) :=
  let call (method : String) : CallEvent Outcome := .start .future ⟨some method, .empty⟩
  [ (⟨0⟩, call " a "), (⟨0⟩, .step 0 .poll),
    (⟨1⟩, call "a"), (⟨1⟩, .step 1 .poll),
    (⟨2⟩, call ""), (⟨2⟩, .step 2 .poll),
    (⟨3⟩, .step 0 (.finish .notFound)),
    (⟨4⟩, .step 1 .panic),
    (⟨5⟩, .step 0 .count),
    (⟨6⟩, .step 2 (.drop false)),
    (⟨7⟩, .step 2 .count),
    (⟨8⟩, .step 1 .count),
    (⟨9⟩, .step 2 .log),
    (⟨10⟩, .step 0 .log),
    (⟨11⟩, .step 1 .log) ]

/-- What is told of each effect: the number of its call, the name and the outcome. -/
def told (done : List (Nat × Effect)) : List (Nat × String × Outcome) :=
  done.map fun (id, effect) =>
    match effect with
    | .count k | .log k _ => (id, k.call.name, k.outcome)

/-- With room for two latencies the three calls end in their three ways, and each is counted once
and logged once, under its name and with its outcome. With the greatest capacity that a signed
word can tell, the value of the first call does not get to its caller and nothing is logged,
until the count of the second one ends the process.
-/
theorem observationLaw_threeEndings
    : let flight capacity := flown (fun _ => default) (some capacity) threeEndings
      (flight 2).calls.map (fun c => c.stage.result?)
        = [some (.returned .notFound), some .panicked, some .dropped]
      ∧ told (trace (fun _ => default) (some 2) threeEndings)
        = [ (0, "a", .notFound), (2, "unknown", .canceled), (1, "a", .internal),
            (2, "unknown", .canceled), (0, "a", .notFound), (1, "a", .internal) ]
      ∧ (flight 9223372036854775807).halted = true
      ∧ (flight 9223372036854775807).calls.map (fun c => c.stage.result?)
        = [some .panicked, some .panicked, some .panicked]
      ∧ (flight 9223372036854775807).observatory.lines = [] := by
  have law := observationLaw (fun _ => default) (some 9223372036854775807) threeEndings
  refine ⟨by decide +kernel, by decide +kernel, by decide +kernel, by decide +kernel, ?_⟩
  rw [law.lines, (law.nothing (by decide)).1]
  rfl

end Airspace

end CallWatch
