import CallWatch.Proofs.Load.Clock

/-! A load run conserves its calls and ends.
Every call that begins is taken down once, as it was drawn, so the requests that are counted and
the lines that are written are those calls; and under a clock that moves timer by timer the run
is over once the longest call that could begin would be. Two things can keep a run from that:
where the observatory does not take a call its worker breaks off with it, and where the clock
cannot tell the deadline the run breaks off before it has any worker.
-/

namespace CallWatch

-----------------------------------------------------------------------------------------
-- Totals
-----------------------------------------------------------------------------------------

/-- What an update adds to the value of its name it adds to the total of all values, by induction
on the entries that it passes over.
-/
theorem Ledger.sum_updateEntries {α : Type} (figure : α → Nat) (blank : α) {f : Option α → α}
    {n : Nat} (nought : figure blank = 0)
    (adds : ∀ value? : Option α, figure (f value?) = figure (value?.getD blank) + n)
    (name : String) (entries : List (String × α))
    : ((updateEntries name f entries).map fun entry => figure entry.2).sum
      = (entries.map fun entry => figure entry.2).sum + n := by
  have fresh : figure (f none) = n := by rw [adds, Option.getD_none, nought, Nat.zero_add]
  have further (value : α) : figure (f (some value)) = figure value + n := by
    rw [adds, Option.getD_some]
  induction entries with
  | nil => simp [updateEntries, fresh]
  | cons entry rest ih =>
      simp only [updateEntries]
      split
      · simp only [List.map_cons, List.sum_cons, further]
        omega
      · split
        · simp only [List.map_cons, List.sum_cons, fresh]
          omega
        · simp only [List.map_cons, List.sum_cons, ih]
          omega

namespace Collector

/-- The requests of all rows. -/
def totalRequests (c : Collector) : Nat :=
  (c.rows.map Row.requests).sum

/-- The errors of all rows. -/
def totalErrors (c : Collector) : Nat :=
  (c.rows.map Row.errors).sum

theorem totalRequests_recordCall {c : Collector} {call : FinishedCall}
    (taken : c.takes call.method = true)
    : (c.recordCall call).totalRequests = c.totalRequests + 1 := by
  simp only [totalRequests, rows, List.map_map, recordCall, record_of_takes taken]
  exact Ledger.sum_updateEntries Tally.requests Tally.empty rfl (fun _ => rfl) _ _

theorem totalErrors_recordCall {c : Collector} {call : FinishedCall}
    (taken : c.takes call.method = true)
    : (c.recordCall call).totalErrors = c.totalErrors + call.outcome.isError.toNat := by
  simp only [totalErrors, rows, List.map_map, recordCall, record_of_takes taken]
  refine Ledger.sum_updateEntries Tally.errors Tally.empty rfl (fun tally? => ?_) _ _
  cases failed : call.outcome.isError <;> simp [Tally.record, failed]

/-- Every call that is taken is one request more, by induction on the calls. -/
theorem totalRequests_foldl {c : Collector} {calls : List FinishedCall}
    (taken : ∀ call ∈ calls, c.takes call.method = true)
    : (calls.foldl recordCall c).totalRequests = c.totalRequests + calls.length := by
  induction calls generalizing c with
  | nil => rfl
  | cons call rest ih =>
      obtain ⟨first, others⟩ := List.forall_mem_cons.mp taken
      have later := ih (c := c.recordCall call) (by simpa [recordCall] using others)
      rw [List.foldl_cons, later, totalRequests_recordCall first, List.length_cons]
      omega

/-- Every one that failed is one error more, by induction on the calls. -/
theorem totalErrors_foldl {c : Collector} {calls : List FinishedCall}
    (taken : ∀ call ∈ calls, c.takes call.method = true)
    : (calls.foldl recordCall c).totalErrors
      = c.totalErrors + calls.countP fun call => call.outcome.isError := by
  induction calls generalizing c with
  | nil => rfl
  | cons call rest ih =>
      obtain ⟨first, others⟩ := List.forall_mem_cons.mp taken
      have later := ih (c := c.recordCall call) (by simpa [recordCall] using others)
      rw [List.foldl_cons, later, totalErrors_recordCall first, List.countP_cons]
      cases call.outcome.isError with
      | false => simp
      | true =>
          simp only [Bool.toNat_true, if_true]
          omega

end Collector

namespace Load

-----------------------------------------------------------------------------------------
-- Deeds of a history
-----------------------------------------------------------------------------------------

theorem Deed.length_entries (deeds : List Deed)
    : (entries deeds).length = (recorded deeds).length := by
  induction deeds with
  | nil => rfl
  | cons deed rest ih =>
      cases deed <;>
        simpa [entries, recorded, entry?, recorded?, List.filterMap_cons] using ih

/-- A deed that has been seen is one of the deeds of its worker. -/
theorem mem_deedsOf {worker : Nat} {deed : Deed} {history : List (Nat × Deed)}
    (seen : (worker, deed) ∈ history)
    : deed ∈ deedsOf worker history :=
  List.mem_filterMap.mpr ⟨(worker, deed), seen, if_pos rfl⟩

theorem exists_of_mem_begun {begun : SyntheticCall × Duration} {history : List (Nat × Deed)}
    (member : begun ∈ Deed.begun (allDeeds history))
    : ∃ worker deed,
        (worker, deed) ∈ history ∧ begun ∈ Deed.begun (deedsOf worker history) := by
  obtain ⟨deed, seen, begins⟩ := List.mem_filterMap.mp member
  obtain ⟨⟨worker, _⟩, placed, rfl⟩ := List.mem_map.mp seen
  exact ⟨worker, _, placed, List.mem_filterMap.mpr ⟨_, mem_deedsOf placed, begins⟩⟩

/-- A call that was taken down is one that its worker took down. -/
theorem exists_of_mem_recorded {recorded : SyntheticCall × Duration}
    {history : List (Nat × Deed)} (member : recorded ∈ Deed.recorded (allDeeds history))
    : ∃ worker now entry,
        (worker, Deed.records recorded.1 recorded.2 now entry) ∈ history := by
  obtain ⟨deed, seen, takes⟩ := List.mem_filterMap.mp member
  obtain ⟨⟨worker, deed⟩, placed, rfl⟩ := List.mem_map.mp seen
  cases deed with
  | looks | breaks => cases takes
  | records call startedAt now entry =>
      cases takes
      exact ⟨worker, now, entry, placed⟩

/-- A call that was not taken is one with which its worker broke off. -/
theorem exists_of_mem_broken {broken : SyntheticCall × Duration} {history : List (Nat × Deed)}
    (member : broken ∈ Deed.broken (allDeeds history))
    : ∃ worker now, (worker, Deed.breaks broken.1 broken.2 now) ∈ history := by
  obtain ⟨deed, seen, breaks⟩ := List.mem_filterMap.mp member
  obtain ⟨⟨worker, deed⟩, placed, rfl⟩ := List.mem_map.mp seen
  cases deed with
  | looks | records => cases breaks
  | breaks call startedAt now =>
      cases breaks
      exact ⟨worker, now, placed⟩

/-- An entry that was taken down tells a call that was. -/
theorem exists_of_mem_entries {entry : Entry} {history : List (Nat × Deed)}
    (member : entry ∈ entriesOf history)
    : ∃ worker call startedAt now, (worker, Deed.records call startedAt now entry) ∈ history := by
  obtain ⟨deed, seen, taken⟩ := List.mem_filterMap.mp member
  obtain ⟨⟨worker, deed⟩, placed, rfl⟩ := List.mem_map.mp seen
  cases deed with
  | looks | breaks => cases taken
  | records call startedAt now =>
      cases taken
      exact ⟨worker, call, startedAt, now, placed⟩

-----------------------------------------------------------------------------------------
-- What is conserved
-----------------------------------------------------------------------------------------

/-- What a worker does, from its first look on:
- the calls that it begins are the first ones of the script of its stream;
- it takes them down in that order, each once, and at most the last one it does not: it is still
inside that one, or it has broken off with it;
- once it has looked where it may not begin, or has broken off, it does nothing more;
- it does two things for each call and quits, and the calls fit between the start and the
deadline, each with its shortest latency.
-/
structure WorkerConserves (profile : LoadProfile) (stream : Random.Stream) (deeds : List Deed)
    : Prop where
  scripted
    : ∃ n, (Deed.begun deeds).map (·.1) = (script profile.errorPct stream n).1
  once
    : ∃ inside? : Option _,
        Deed.begun deeds = Deed.recorded deeds ++ Deed.broken deeds ++ inside?.toList
        ∧ (Deed.broken deeds ++ inside?.toList).length ≤ 1
  last : ∀ deed ∈ deeds.dropLast, deed.quits = false
  few
    : deeds.length ≤ 2 * (Deed.begun deeds).length + 1
      ∧ (Deed.begun deeds).length * shortestCall.nanos
        < profile.duration.nanos + shortestCall.nanos

theorem Worker.Accounts.conserves {surroundings : Surroundings} {takes : Call → Bool}
    {start now : Duration} {profile : LoadProfile} {stream : Random.Stream} {deeds : List Deed}
    {w : Worker} (h : w.Accounts surroundings takes start profile stream deeds now)
    : WorkerConserves profile stream deeds := by
  constructor
  · exact ⟨w.begun, by rw [h.scripted]⟩
  · refine ⟨w.call?, h.kept, ?_⟩
    cases inside : w.call? with
    | none => simpa using Deed.length_broken_le h.last
    | some call =>
        rw [Deed.broken_eq_nil (h.active (live_of_call? inside))]
        simp
  · exact h.last
  · refine ⟨?_, h.bounded⟩
    have kept := congrArg List.length h.kept
    have length := h.length
    have quit : (!w.live).toNat ≤ 1 := Bool.toNat_le _
    rw [List.length_append, List.length_append] at kept
    omega

/-- The workers of all runs that are inside a call. -/
def Floor.inside (f : Floor) : Nat :=
  (f.control.runs.flatMap Run.workers).countP fun w => w.call?.isSome

/-- What a history of a load run conserves, up to where the floor stands:
- only the workers of the profile are seen;
- each of them conserves its calls;
- a call begins where the flag is up before the deadline and nowhere else, what is taken down
of a call tells it, and a worker breaks off with a call that the observatory does not take;
- every call that begins has a method of the script and a latency in its range, and is fine or
fails as the percentage says, but is never canceled;
- the calls that have begun are those that were taken down, those that were not taken and those
that workers are inside, at most one for each worker;
- where the windows of the collector can be made every call is taken, and where nothing is taken
nothing is taken down and the observatory stays as it was;
- each call that was taken down is one record of the journal and one call of the collector, so
it adds one request, and one error if it failed: none of them does when the percentage is
nought, and all do when it is a hundred or more;
- when the run is over all calls that have begun were taken down or not taken.
-/
structure Floor.Conserves (surroundings : Surroundings) (start : Duration)
    (profile : LoadProfile) (seeding : Seeding) (o : Observatory)
    (history : List (Nat × Deed)) (g : Floor) : Prop where
  known : ∀ seen ∈ history, seen.1 < profile.workers
  workers
    : ∀ worker < profile.workers,
        WorkerConserves profile (seeding worker) (deedsOf worker history)
  sound : ∀ seen ∈ history, seen.2.Sound surroundings o.takes (Terms.ofLaunch start profile)
  drawn
    : ∀ begun ∈ Deed.begun (allDeeds history),
        begun.1.Drawn profile.errorPct ∧ begun.1.outcome ≠ .canceled
  underway
    : (Deed.begun (allDeeds history)).length
        = (Deed.recorded (allDeeds history)).length + (Deed.broken (allDeeds history)).length
          + g.inside
      ∧ g.inside ≤ profile.workers
  taken : o.Fits → Deed.broken (allDeeds history) = []
  refused
    : (∀ call, o.takes call = false)
      → Deed.recorded (allDeeds history) = [] ∧ g.bench.observatory = o
  lines
    : g.bench.observatory.journal.toList
        = o.journal.toList ++ (entriesOf history).map Entry.record
      ∧ (entriesOf history).length = (Deed.recorded (allDeeds history)).length
  counted
    : ∀ c,
        o.collector = some c
        → ∃ next,
            g.bench.observatory.collector = some next
            ∧ next = ((entriesOf history).filterMap Entry.counted?).foldl Collector.recordCall c
            ∧ next.totalRequests = c.totalRequests + (entriesOf history).length
            ∧ (profile.errorPct = 0 → next.totalErrors = c.totalErrors)
            ∧ (100 ≤ profile.errorPct
              → next.totalErrors = c.totalErrors + (entriesOf history).length)
  ended
    : g.control.runs = []
      → ∀ worker < profile.workers,
          Deed.begun (deedsOf worker history)
            = Deed.recorded (deedsOf worker history) ++ Deed.broken (deedsOf worker history)

section Keeping
variable {surroundings : Surroundings} {start now : Duration} {profile : LoadProfile}
  {seeding : Seeding} {history : List (Nat × Deed)} {workers : List Worker}
  {o : Observatory} {g : Floor}

namespace Books
variable (books : Books surroundings o.takes start profile seeding history now workers)
include books

/-- Books have an account for each worker of the profile. -/
theorem exists_account {worker : Nat} (inside : worker < profile.workers)
    : ∃ w ∈ workers,
        w.Accounts surroundings o.takes start profile (seeding worker) (deedsOf worker history)
          now := by
  rw [← books.manned] at inside
  have found : workers[worker]? = some workers[worker] := List.getElem?_eq_getElem inside
  exact ⟨_, List.getElem_mem inside, books.accounts worker _ found⟩

/-- A deed that has been seen is sound. -/
theorem sound
    : ∀ seen ∈ history, seen.2.Sound surroundings o.takes (Terms.ofLaunch start profile) := by
  intro seen member
  obtain ⟨w, -, account⟩ := books.exists_account (books.known seen member)
  exact account.sound seen.2 (mem_deedsOf member)

/-- A call that has begun is drawn from a script. -/
theorem drawn
    : ∀ begun ∈ Deed.begun (allDeeds history), begun.1.Drawn profile.errorPct := by
  intro begun member
  obtain ⟨worker, deed, seen, begins⟩ := exists_of_mem_begun member
  obtain ⟨w, -, account⟩ := books.exists_account (books.known _ seen)
  exact account.drawn begun begins

/-- What is taken down is a call of the script that began and is taken, with the outcome drawn
for it.
-/
theorem exists_completion {entry : Entry} (member : entry ∈ entriesOf history)
    : ∃ (call : SyntheticCall) (k : Completion) (at_ : Time.Instant),
        call.Drawn profile.errorPct
        ∧ entry = .call k at_
        ∧ k.outcome = call.outcome
        ∧ o.takes k.call = true := by
  obtain ⟨worker, call, startedAt, at_, seen⟩ := exists_of_mem_entries member
  obtain ⟨w, -, account⟩ := books.exists_account (books.known _ seen)
  obtain ⟨observed, -, taken, rfl⟩ := account.sound _ (mem_deedsOf seen)
  have recorded : (call, startedAt) ∈ Deed.recorded (deedsOf worker history) :=
    List.mem_filterMap.mpr ⟨_, mem_deedsOf seen, rfl⟩
  have begun : (call, startedAt) ∈ Deed.begun (deedsOf worker history) := by
    rw [account.kept, List.append_assoc]
    exact List.mem_append_left _ recorded
  exact ⟨call, _, _, account.drawn _ begun, rfl, rfl, taken⟩

/-- Every call that is taken down leaves something. -/
theorem filter_admits
    : (entriesOf history).filter o.admits = entriesOf history := by
  rw [List.filter_eq_self]
  intro entry member
  obtain ⟨_, k, at_, -, rfl, -, taken⟩ := books.exists_completion member
  exact taken

/-- The collector is told of every call that is taken down. -/
theorem length_counted
    : ((entriesOf history).filterMap Entry.counted?).length = (entriesOf history).length := by
  refine List.filterMap_length_eq_length.mpr fun entry member => ?_
  obtain ⟨_, _, _, -, rfl, -⟩ := books.exists_completion member
  rfl

/-- The collector takes every call that it is told of. -/
theorem takes_counted {c : Collector} (present : o.collector = some c)
    : ∀ call ∈ (entriesOf history).filterMap Entry.counted?, c.takes call.method = true := by
  intro call told
  obtain ⟨entry, member, counts⟩ := List.mem_filterMap.mp told
  obtain ⟨_, k, at_, -, rfl, -, taken⟩ := books.exists_completion member
  cases counts
  simpa [Observatory.takes, present] using taken

/-- If the calls of the script are all of some kind by their outcome, so are those that the
collector is told of.
-/
theorem counted (kind : Outcome → Prop)
    (scripted : ∀ call : SyntheticCall, call.Drawn profile.errorPct → kind call.outcome)
    : ∀ call ∈ (entriesOf history).filterMap Entry.counted?, kind call.outcome := by
  intro call told
  obtain ⟨entry, member, counts⟩ := List.mem_filterMap.mp told
  obtain ⟨drawn, k, at_, ofScript, rfl, same, -⟩ := books.exists_completion member
  cases counts
  exact same ▸ scripted drawn ofScript

/-- What a collector is told of a run adds its calls to the requests, and to the errors none or
all of them when the percentage is nought or a hundred.
-/
theorem totals {c : Collector} (present : o.collector = some c)
    : let next := ((entriesOf history).filterMap Entry.counted?).foldl Collector.recordCall c
      next.totalRequests = c.totalRequests + (entriesOf history).length
      ∧ (profile.errorPct = 0 → next.totalErrors = c.totalErrors)
      ∧ (100 ≤ profile.errorPct
        → next.totalErrors = c.totalErrors + (entriesOf history).length) := by
  have taken := books.takes_counted present
  refine ⟨?_, fun none => ?_, fun all => ?_⟩
  · rw [Collector.totalRequests_foldl taken, books.length_counted]
  · have fine := books.counted (fun outcome => outcome.isError = false)
      fun call drawn => by rw [drawn.fine none]; rfl
    rw [Collector.totalErrors_foldl taken, List.countP_eq_zero.mpr (by simpa using fine),
      Nat.add_zero]
  · have failed := books.counted (fun outcome => outcome.isError = true)
      fun call drawn => (isError_of_mem_failures _ (drawn.failing all)).1
    rw [Collector.totalErrors_foldl taken, List.countP_eq_length.mpr failed, books.length_counted]

/-- Where the windows of the collector can be made no worker breaks off. -/
theorem broken_eq_nil (fits : o.Fits)
    : Deed.broken (allDeeds history) = [] := by
  refine List.eq_nil_iff_forall_not_mem.mpr fun broken member => ?_
  obtain ⟨worker, now, seen⟩ := exists_of_mem_broken member
  obtain ⟨observed, -, refused⟩ := books.sound _ seen
  cases refused.symm.trans (fits.takes observed)

/-- Where nothing is taken nothing is taken down. -/
theorem recorded_eq_nil (refuses : ∀ call, o.takes call = false)
    : Deed.recorded (allDeeds history) = [] := by
  refine List.eq_nil_iff_forall_not_mem.mpr fun recorded member => ?_
  obtain ⟨worker, now, entry, seen⟩ := exists_of_mem_recorded member
  obtain ⟨observed, -, taken, -⟩ := books.sound _ seen
  cases taken.symm.trans (refuses observed)

/-- A history that keeps the books conserves what the run does, however the floor stands. -/
theorem conserves (stands : Stands start profile workers (o.enterAll (entriesOf history)) g)
    : g.Conserves surroundings start profile seeding o history := by
  have told : g.bench.observatory = o.enterAll (entriesOf history) := by
    cases stands <;> rfl
  have idle (spent : ∀ w ∈ workers, w.live = false) : ∀ w ∈ workers, w.call? = none := by
    intro w member
    rw [← Option.not_isSome_iff_eq_none, Option.isSome_iff_exists]
    rintro ⟨begun, inside⟩
    have live := Worker.live_of_call? inside
    rw [spent w member] at live
    cases live
  have inside : g.inside = workers.countP fun w => w.call?.isSome := by
    cases stands with
    | manned lowered flag =>
        simp [Floor.inside, Floor.control, Floor.solo, Bench.solo, Run.workers, Run.manned]
    | ended flag spent =>
        have none := idle spent
        simp +contextual [Floor.inside, Floor.control, Floor.solo, Bench.solo, none,
          eq_comm (a := 0)]
  constructor
  · exact books.known
  · intro worker known
    obtain ⟨w, -, account⟩ := books.exists_account known
    exact account.conserves
  · exact books.sound
  · exact fun begun member => ⟨books.drawn begun member, (books.drawn begun member).not_canceled⟩
  · rw [inside]
    exact ⟨books.underway, books.manned ▸ List.countP_le_length⟩
  · exact books.broken_eq_nil
  · intro refuses
    have none := books.recorded_eq_nil refuses
    have silent : entriesOf history = [] :=
      List.eq_nil_of_length_eq_zero ((Deed.length_entries _).trans (congrArg _ none))
    exact ⟨none, told.trans (by rw [silent]; rfl)⟩
  · rw [told, Observatory.journal_enterAll, books.filter_admits]
    exact ⟨rfl, Deed.length_entries _⟩
  · intro c hasCollector
    rw [told, Observatory.collector_enterAll, hasCollector]
    exact ⟨_, rfl, rfl, books.totals hasCollector⟩
  · intro ended worker known
    cases stands with
    | manned => cases ended
    | ended flag spent =>
        obtain ⟨w, member, account⟩ := books.exists_account known
        rw [account.kept, idle spent w member, Option.toList_none, List.append_nil]

end Books

end Keeping

-----------------------------------------------------------------------------------------
-- The clock that runs
-----------------------------------------------------------------------------------------

/-- A run as the clock drives it from its launch up to an instant, timer by timer; others may
lower the flag at some instant on the way.
-/
def Bench.driven (surroundings : Surroundings) (start : Duration) (stop? : Option Duration)
    (target : Duration) (b : Bench) : Bench :=
  let timers := timers surroundings
  let b := b.settle surroundings start
  match stop? with
  | none => timers.runTo target start b
  | some stop =>
    let b := timers.runTo stop start b
    timers.runTo target stop { b with control := { b.control with flag := false } }

section Driving
variable {surroundings : Surroundings} {seeding : Seeding} {start target : Duration}
  {profile : LoadProfile} {o : Observatory} {stop? : Option Duration}

theorem Floor.orderly_launched (flag : Bool)
    : (launched seeding start profile flag o).control.Orderly := by
  by_cases told : (start + profile.duration).IsInstant
  · rw [launched_eq_manned told]
    constructor <;> simp [solo, control, Bench.solo, Run.manned]
  · rw [launched_eq_unmanned told]
    constructor <;> simp [solo, control, Bench.solo, Run.unmanned]

/-- The clock that runs drives a run that was started as it drives one that the program has
launched: what is launched at the start is not launched again.
-/
theorem Floor.driven_launched (flag : Bool)
    : (launched .own start profile flag o).bench.driven surroundings start stop? target
      = (Bench.withRun profile flag o).driven surroundings start stop? target := by
  have again : (launched .own start profile flag o).control.launch start
      = (launched .own start profile flag o).control := by
    have once := Run.launch_eq_self ((Run.new 0 profile).waiting_launchWith .own start) start
    exact congrArg (fun r : Run => (solo (some r) flag o).control) once
  have settles : (launched .own start profile flag o).bench.settle surroundings start
      = (Bench.withRun profile flag o).settle surroundings start :=
    congrArg
      (fun c =>
        let b := (Bench.mk c o).advance surroundings start fun _ => true
        ({ b with control := b.control.finishExhausted } : Bench))
      again
  simp only [Bench.driven, settles]

/-- The clock that runs is one that moves timer by timer, and leaves the run at rest. -/
theorem Floor.ticks_driven (ahead : start ≤ target)
    (between : ∀ stop, stop? = some stop → start ≤ stop ∧ stop ≤ target)
    : let last :=
        (launched seeding start profile true o).bench.driven surroundings start stop? target
      (launched seeding start profile true o).Ticks surroundings start stop? target ⟨last, []⟩
        ∧ last.Rests target := by
  have begins :
      (launched seeding start profile true o).Ticks surroundings start none start
        ⟨(launched seeding start profile true o).bench, []⟩ := .opening
  obtain ⟨settles, rests⟩ := begins.settle (orderly_launched true)
  cases stop? with
  | none => exact settles.runTo rests ahead
  | some stop =>
      obtain ⟨after, upTo⟩ := between stop rfl
      obtain ⟨stopping, rested⟩ := settles.runTo rests after
      obtain ⟨lowered, still⟩ := stopping.lowersAtRest rested
      exact lowered.runTo still upTo

end Driving

-----------------------------------------------------------------------------------------
-- A run that breaks off
-----------------------------------------------------------------------------------------

section BreakingOff
variable {surroundings : Surroundings} {seeding : Seeding} {start now : Duration}
  {profile : LoadProfile} {flag : Bool} {o : Observatory} {g : Floor}

/-- A run that has broken off does nothing, and only others set the flag; by induction on what
comes of it.
-/
theorem Floor.Plays.unmanned (untold : ¬ (start + profile.duration).IsInstant)
    {history : List (Nat × Deed)}
    (plays : (launched seeding start profile flag o).Plays surroundings start history now g)
    : history = [] ∧ ∃ value, g = solo (some (Run.unmanned profile)) value o := by
  induction plays with
  | opening => exact ⟨rfl, flag, launched_eq_unmanned untold seeding flag o⟩
  | moves _ _ own moved ih =>
      obtain ⟨-, value, rfl⟩ := ih
      rw [step?_unmanned own] at moved
      cases moved
  | flags _ value ih =>
      obtain ⟨none, _, rfl⟩ := ih
      exact ⟨none, value, rfl⟩
  | waits _ _ ih => exact ih

/-- Under a clock that moves timer by timer the flag is up until others lower it, by induction on
what comes of the run.
-/
theorem Floor.Ticks.unmanned (untold : ¬ (start + profile.duration).IsInstant)
    {lowered? : Option Duration}
    (ticks : (launched seeding start profile true o).Ticks surroundings start lowered? now g)
    : g = solo (some (Run.unmanned profile)) lowered?.isNone o := by
  induction ticks with
  | opening => exact launched_eq_unmanned untold seeding true o
  | moves _ own moved ih =>
      rw [ih, step?_unmanned own] at moved
      cases moved
  | lowers _ ih =>
      rw [ih]
      rfl
  | waits _ _ _ ih => exact ih

end BreakingOff

-----------------------------------------------------------------------------------------
-- The law
-----------------------------------------------------------------------------------------

/-- What comes of a run whose deadline the clock can tell:
- every history that can come of it conserves its calls;
- as long as it has not ended there is an instant from which on it can always move;
- under a clock that moves timer by timer it is over, with the flag down, once nothing is left
to do at an instant at which the longest call would be over that began at the deadline, or when
the flag was lowered, whichever came first;
- so it is under the clock that runs, whether others lower the flag on the way or not, and what
comes of it conserves its calls.

Timers wake at whole milliseconds, so a clock that moves from one to the next begins at one:
this is what `start.wake = start` says.
-/
structure LaunchedLaw (surroundings : Surroundings) (seeding : Seeding) (start : Duration)
    (profile : LoadProfile) (o : Observatory) : Prop where
  conserves
    : ∀ (flag : Bool) (history : List (Nat × Deed)) (now : Duration) (g : Floor),
        (Floor.launched seeding start profile flag o).Plays surroundings start history now g
        → g.Conserves surroundings start profile seeding o history
  goesOn
    : ∀ (flag : Bool) (history : List (Nat × Deed)) (now : Duration) (g : Floor),
        (Floor.launched seeding start profile flag o).Plays surroundings start history now g
        → g.control.runs ≠ []
        → ∃ since : Duration,
            ∀ later : Duration,
              since ≤ later
              → ∃ move : Move,
                  move.run?.isSome = true
                  ∧ (g.step? surroundings later move).isSome = true
  inTime
    : start.wake = start
      → ∀ (lowered? : Option Duration) (now : Duration) (g : Floor),
          (Floor.launched seeding start profile true o).Ticks surroundings start lowered? now g
          → g.Quiet surroundings now
          → lastBeginning start profile lowered? + longestCall ≤ now
          → g.control.runs = [] ∧ g.control.flag = false
  driven
    : start.wake = start
      → ∀ (stop? : Option Duration) (target : Duration),
          (∀ stop, stop? = some stop → start ≤ stop ∧ stop ≤ target)
          → lastBeginning start profile stop? + longestCall ≤ target
          → start ≤ target
          → let last :=
              (Floor.launched seeding start profile true o).bench.driven surroundings start stop?
                target
            last.control.runs = []
            ∧ last.control.flag = false
            ∧ ∃ history,
                (Floor.mk last []).Conserves surroundings start profile seeding o history

/-- What comes of a run whose deadline the clock cannot tell:
- whatever others do with the flag, no call begins, the observatory stays as it was, nobody need
wait for the run, and it cannot move at any instant;
- under a clock that moves timer by timer the flag is up until others lower it;
- so it is under the clock that runs.
-/
structure BrokenOffLaw (surroundings : Surroundings) (seeding : Seeding) (start : Duration)
    (profile : LoadProfile) (o : Observatory) : Prop where
  still
    : ∀ (flag : Bool) (history : List (Nat × Deed)) (now : Duration) (g : Floor),
        (Floor.launched seeding start profile flag o).Plays surroundings start history now g
        → history = []
          ∧ g.bench.observatory = o
          ∧ g.control.ended 0 = true
          ∧ ∀ later, g.Quiet surroundings later
  staysUp
    : ∀ (lowered? : Option Duration) (now : Duration) (g : Floor),
        (Floor.launched seeding start profile true o).Ticks surroundings start lowered? now g
        → g.control.flag = lowered?.isNone
  driven
    : ∀ (stop? : Option Duration) (target : Duration),
        (∀ stop, stop? = some stop → start ≤ stop ∧ stop ≤ target)
        → start ≤ target
        → let last :=
            (Floor.launched seeding start profile true o).bench.driven surroundings start stop?
              target
          last.control.flag = stop?.isNone ∧ last.observatory = o

/-- A load run conserves its calls and ends, or breaks off at its launch, whatever streams its
workers have, in whatever order they move, and whenever others set the flag:
- the launch is the one of the program where the streams are those of its own seeds, and so is
what the clock that runs makes of it;
- where the clock can tell the deadline the run conserves its calls and ends;
- where it cannot tell it the run breaks off.
-/
structure ConservationLaw (surroundings : Surroundings) (seeding : Seeding) (start : Duration)
    (profile : LoadProfile) (o : Observatory) : Prop where
  program
    : ∀ flag : Bool,
        (Floor.withRun profile flag o).step? surroundings start (.launch 0)
          = some (Floor.launched .own start profile flag o)
        ∧ ∀ (stop? : Option Duration) (target : Duration),
            (Bench.withRun profile flag o).driven surroundings start stop? target
              = (Floor.launched .own start profile flag o).bench.driven surroundings start stop?
                  target
  launched
    : (start + profile.duration).IsInstant → LaunchedLaw surroundings seeding start profile o
  brokenOff
    : ¬ (start + profile.duration).IsInstant → BrokenOffLaw surroundings seeding start profile o

section Law
variable (surroundings : Surroundings) (seeding : Seeding) {start : Duration}
  {profile : LoadProfile} (o : Observatory)

/-- A run whose deadline the clock can tell conserves its calls and ends. -/
theorem launchedLaw (told : (start + profile.duration).IsInstant)
    : LaunchedLaw surroundings seeding start profile o := by
  have conserves (flag : Bool) (history : List (Nat × Deed)) (now : Duration) (g : Floor)
      (plays : (Floor.launched seeding start profile flag o).Plays surroundings start history now g)
      : g.Conserves surroundings start profile seeding o history := by
    obtain ⟨workers, books, stands⟩ := plays.books told
    exact books.conserves stands
  constructor
  · exact conserves
  · intro flag history now g plays onWay
    obtain ⟨workers, books, stands⟩ := plays.books told
    cases stands with
    | ended => exact absurd rfl onWay
    | manned lowered flag spent =>
        obtain ⟨since, ended⟩ := Floor.exists_over workers
        exact ⟨since, fun later after => Floor.exists_possible fun w member wake calling =>
          Nat.le_trans (ended w member wake calling) after⟩
  · intro whole lowered? now g ticks quiet late
    exact (ticks.timely told whole).over_of_quiet late quiet
  · intro whole stop? target between late ahead
    let last :=
      (Floor.launched seeding start profile true o).bench.driven surroundings start stop? target
    obtain ⟨ticks, rests⟩ :
        (Floor.launched seeding start profile true o).Ticks surroundings start stop? target
            ⟨last, []⟩
          ∧ last.Rests target := Floor.ticks_driven ahead between
    have quiet : (Floor.mk last []).Quiet surroundings target := fun move own =>
      rests.step?_eq_none (fun deadline due => (rests.wake_of_wake? due).2) own []
    obtain ⟨ended, down⟩ := (ticks.timely told whole).over_of_quiet late quiet
    obtain ⟨history, plays⟩ := ticks.plays
    exact ⟨ended, down, history, conserves true history target _ plays⟩

/-- A run whose deadline the clock cannot tell breaks off. -/
theorem brokenOffLaw (untold : ¬ (start + profile.duration).IsInstant)
    : BrokenOffLaw surroundings seeding start profile o := by
  constructor
  · intro flag history now g plays
    obtain ⟨none, value, rfl⟩ := plays.unmanned untold
    exact ⟨none, rfl, rfl, fun later move own => Floor.step?_unmanned own⟩
  · intro lowered? now g ticks
    rw [ticks.unmanned untold]
    rfl
  · intro stop? target between ahead
    let last :=
      (Floor.launched seeding start profile true o).bench.driven surroundings start stop? target
    have ticks
        : (Floor.launched seeding start profile true o).Ticks surroundings start stop? target
            ⟨last, []⟩ :=
      (Floor.ticks_driven ahead between).1
    have stands := ticks.unmanned untold
    exact ⟨congrArg (fun f => f.control.flag) stands,
      congrArg (fun f => f.bench.observatory) stands⟩

end Law

/-- The law holds of every load run. -/
theorem conservationLaw (surroundings : Surroundings) (seeding : Seeding) (start : Duration)
    (profile : LoadProfile) (o : Observatory)
    : ConservationLaw surroundings seeding start profile o where
  program flag :=
    ⟨Floor.step?_launch_withRun surroundings start profile flag o,
      fun _ _ => (Floor.driven_launched flag).symm⟩
  launched := launchedLaw surroundings seeding o
  brokenOff := brokenOffLaw surroundings seeding o

end Load

end CallWatch
