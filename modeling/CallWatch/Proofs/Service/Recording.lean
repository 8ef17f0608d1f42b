import CallWatch.Proofs.Observation.Agreement
import CallWatch.Proofs.Service.Closings

/-! What is recorded of requests.
Every request ends once at most, and its end is counted and logged once if it is observed. What
is left out is told by the start of the path: so are the routes to the metrics, and so are
requests to paths beside them that have no route at all.
-/

namespace CallWatch

open Http (Request metricsPaths isStray)
open Service (Exchange Pending observedCall observes permissionVerb)

-----------------------------------------------------------------------------------------
-- Entries of requests
-----------------------------------------------------------------------------------------

/-- The call is one of a request: its name is none of the script of load runs. -/
def Completion.isRequest (k : Completion) : Bool :=
  !Load.methods.contains k.call.name

/-- So are the calls under any other name. -/
theorem Completion.isRequest_of_isNamed {name : String} (other : name ∉ Load.methods)
    (k : Completion) (named : k.isNamed name = true)
    : k.isRequest = true := by
  rw [isNamed, decide_eq_true_iff] at named
  simpa [isRequest, named] using other

theorem Completion.isRequest_of_isFailure {name : String} (other : name ∉ Load.methods)
    (k : Completion) (failed : k.isFailure name = true)
    : k.isRequest = true := by
  rw [isFailure, Bool.and_eq_true] at failed
  exact k.isRequest_of_isNamed other failed.1

namespace Entry

/-- The entry is one of a call of some kind. -/
def counts (kind : Completion → Bool) : Entry → Bool
  | .call k _ => kind k
  | .report _ => false

/-- The collector is told of as many calls under a name as there are entries of such calls. -/
theorem length_callsNamed (name : String) (entries : List Entry)
    : (callsNamed name (entries.filterMap counted?)).length
      = entries.countP (counts (Completion.isNamed name)) := by
  rw [callsNamed, ← List.countP_eq_length_filter, List.countP_filterMap]
  refine List.countP_congr fun entry _ => ?_
  cases entry with
  | call k now => simp [counted?, counts, Completion.isNamed, normalizeMethod_name]
  | report record => simp [counted?, counts]

theorem countP_callsNamed (name : String) (entries : List Entry)
    : (callsNamed name (entries.filterMap counted?)).countP (fun call => call.outcome.isError)
      = entries.countP (counts (Completion.isFailure name)) := by
  rw [callsNamed, List.countP_filter, List.countP_filterMap]
  refine List.countP_congr fun entry _ => ?_
  cases entry with
  | call k now =>
      simp [counted?, counts, Completion.isFailure, Completion.isNamed, normalizeMethod_name,
        and_comm]
  | report record => simp [counted?, counts]

/-- Of requests it is told of as many calls as there are entries of requests. -/
theorem countP_counted (entries : List Entry)
    : (entries.filterMap counted?).countP
        (fun call => !Load.methods.contains (normalizeMethod call.method))
      = entries.countP (counts Completion.isRequest) := by
  rw [List.countP_filterMap]
  refine List.countP_congr fun entry _ => ?_
  cases entry with
  | call k now => simp [counted?, counts, Completion.isRequest, normalizeMethod_name]
  | report record => simp [counted?, counts]

/-- Entries of a kind of requests are found among those of requests. -/
theorem countP_filter_isRequest {kind : Completion → Bool}
    (narrow : ∀ k, kind k = true → k.isRequest = true) (entries : List Entry)
    : (entries.filter (counts Completion.isRequest)).countP (counts kind)
      = entries.countP (counts kind) := by
  rw [List.countP_filter]
  refine List.countP_congr fun entry _ => ?_
  cases entry with
  | call k now => simpa [counts] using narrow k
  | report record => simp [counts]

/-- What load runs and the reporter take down is of no request. -/
theorem filter_isRequest_of_scripted {entries : List Entry}
    (scripted : ∀ entry ∈ entries, entry.Of (· ∈ Load.methods))
    : entries.filter (counts Completion.isRequest) = [] := by
  refine List.filter_eq_nil_iff.mpr fun entry member => ?_
  cases entry with
  | call k now =>
      have known : k.call.name ∈ Load.methods := scripted _ member
      simpa [counts, Completion.isRequest] using known
  | report record => simp [counts]

end Entry

/-- The record of a request, if a record is of one. -/
def Record.request? : Record → Option AccessRecord
  | .access record => if Load.methods.contains record.method then none else some record
  | .snapshot _ => none

/-- The records of requests are those of the entries of requests, by induction on the entries.
-/
theorem Entry.records_filter_isRequest (entries : List Entry)
    : (entries.map Entry.record).filterMap Record.request?
      = ((entries.filter (counts Completion.isRequest)).map Entry.record).filterMap
          Record.request? := by
  induction entries with
  | nil => rfl
  | cons entry rest ih =>
      cases entry with
      | report record => simpa [List.filterMap_cons, counts, Entry.record, Record.request?] using ih
      | call k now =>
          by_cases scripted : k.call.name ∈ Load.methods
          · simpa [List.filterMap_cons, counts, Entry.record, Record.request?,
              Completion.isRequest, Call.record, scripted] using ih
          · simpa [List.filterMap_cons, counts, Entry.record, Record.request?,
              Completion.isRequest, Call.record, scripted] using ih

/-- How many calls of requests a snapshot reports, under whatever names. -/
def Snapshot.requestTotal (s : Snapshot) : Nat :=
  ((s.rows.filter fun row => !Load.methods.contains row.method).map Row.requests).sum

-----------------------------------------------------------------------------------------
-- Entries of exchanges
-----------------------------------------------------------------------------------------

namespace Closing

/-- As many exchanges have records under a name as have calls under it. -/
theorem countP_method (name : String) (wall : WallClock) (closed : List Closing)
    : (closed.map (record wall)).countP (fun record => record.method = name)
      = closed.countP fun c => c.completion.isNamed name := by
  rw [List.countP_map]
  refine List.countP_congr fun c _ => ?_
  simp only [Function.comp_apply, Completion.isNamed, decide_eq_true_iff]
  rw [method_record, completion]

theorem countP_status (name : String) (wall : WallClock) (closed : List Closing)
    : (closed.map (record wall)).countP
        (fun record => record.method = name && record.status ≠ "OK")
      = closed.countP fun c => c.completion.isFailure name := by
  rw [List.countP_map]
  refine List.countP_congr fun c _ => ?_
  simp only [Function.comp_apply, Completion.isFailure, Completion.isNamed, Bool.and_eq_true,
    decide_eq_true_iff, Outcome.isError, bne_iff_ne, ne_eq, status_record, Outcome.name_eq_ok_iff]
  rw [method_record, completion]

/-- The request asks for no permission and is not one to the metrics. -/
def elsewhere (c : Closing) : Bool :=
  c.request.verb ≠ permissionVerb && !metricsPaths.contains c.request.path

/-- The request asks for no permission and is left out, although there is no route to it. -/
def astray (c : Closing) : Bool :=
  c.request.verb ≠ permissionVerb && isStray c.request.path

variable {wall : WallClock} {c : Closing}

theorem isRequest_of_observed (observed : c.observed = true)
    : c.completion.isRequest = true := by
  simp only [Closing.observed, Bool.and_eq_true] at observed
  have name := Service.name_not_mem_methods observed.2
  simpa [Completion.isRequest, completion] using name

theorem counts_entry (kind : Completion → Bool) (wall : WallClock) (c : Closing)
    : (c.entry wall).counts kind = kind c.completion :=
  rfl

/-- What exchanges leave is of requests. -/
theorem filter_entries (wall : WallClock) (closed : List Closing)
    : (entries wall closed).filter (Entry.counts Completion.isRequest) = entries wall closed := by
  refine List.filter_eq_self.mpr fun e member => ?_
  obtain ⟨c, inside, rfl⟩ := List.mem_map.mp member
  rw [counts_entry]
  exact isRequest_of_observed (List.mem_filter.mp inside).2

theorem countP_entries (kind : Completion → Bool) (wall : WallClock) (closed : List Closing)
    : (entries wall closed).countP (Entry.counts kind)
      = (closed.filter observed).countP fun c => kind c.completion :=
  List.countP_map

/-- If the entries of requests are what exchanges leave, both have as many calls of any kind of
requests.
-/
theorem countP_of_own {entries : List Entry} {closed : List Closing}
    (own : entries.filter (Entry.counts Completion.isRequest) = Closing.entries wall closed)
    {kind : Completion → Bool} (narrow : ∀ k, kind k = true → k.isRequest = true)
    : entries.countP (Entry.counts kind)
      = (closed.filter observed).countP fun c => kind c.completion := by
  rw [← Entry.countP_filter_isRequest narrow, own, countP_entries]

/-- Each observed exchange leaves one record. -/
theorem records_entries (wall : WallClock) (closed : List Closing)
    : ((entries wall closed).map Entry.record).filterMap Record.request?
      = (closed.filter observed).map (record wall) := by
  rw [entries, List.map_map, List.filterMap_map, ← List.filterMap_eq_map]
  refine List.filterMap_congr fun c member => ?_
  have request := isRequest_of_observed (List.mem_filter.mp member).2
  have name : c.completion.call.name ∉ Load.methods := by
    simpa [Completion.isRequest] using request
  simp [entry, Entry.record, Record.request?, Call.record, name, record]

/-- An exchange that ends is left out if its request is one to the metrics, or astray. -/
theorem unobserved_iff (asksNot : c.request.verb ≠ permissionVerb)
    : c.observed = false ↔ c.request.path ∈ metricsPaths ∨ isStray c.request.path = true := by
  rw [← Http.unobserved_iff]
  simp [observed, observes, asksNot]

/-- A request that is not one to the metrics is observed or astray, and not both. -/
theorem observed_toNat_add (c : Closing)
    : c.observed.toNat + c.astray.toNat = c.elsewhere.toNat := by
  have metrics : ∀ path ∈ metricsPaths, Http.Route.unobserved path = true := by decide
  by_cases asks : c.request.verb = permissionVerb
  · simp [observed, astray, elsewhere, asks]
  · by_cases member : c.request.path ∈ metricsPaths
    · simp [observed, observes, astray, elsewhere, isStray, asks, member, metrics _ member]
    · cases start : Http.Route.unobserved c.request.path <;>
        simp [observed, observes, astray, elsewhere, isStray, asks, member, start]

/-- So the observed and the stray exchanges make up those that are not to the metrics. -/
theorem length_observed_add (closed : List Closing)
    : (closed.filter observed).length + closed.countP astray = closed.countP elsewhere := by
  rw [← List.countP_eq_length_filter]
  induction closed with
  | nil => rfl
  | cons c rest ih =>
      have one := c.observed_toNat_add
      simp only [List.countP_cons]
      revert one
      cases c.observed <;> cases c.astray <;> cases c.elsewhere <;> simp <;> omega

end Closing

-----------------------------------------------------------------------------------------
-- Runs
-----------------------------------------------------------------------------------------

namespace Traffic

/-- Load runs keep to their script, and the orders that wait are those of their handlers. -/
structure Regular (t : Traffic) : Prop where
  scripted : t.service.bench.control.Scripted
  orderly : t.Orderly

theorem regular_opening (config : Config)
    : (opening config).Regular :=
  ⟨fun _ member => (nomatch member), fun _ member => nomatch member⟩

section Runs
variable (surroundings : Load.Surroundings) {t : Traffic}

theorem Regular.step (regular : t.Regular) (now : Duration) (event : TrafficEvent)
    : (t.step surroundings now event).Regular :=
  ⟨(grows_step surroundings regular.scripted now event).scripted,
    regular.orderly.step surroundings now event⟩

/-- What an event takes down of requests is what the exchange leaves that ends with it: the
rest is of load runs and the reporter.
-/
theorem enters_step (regular : t.Regular) (now : Duration) (event : TrafficEvent)
    : ∃ entries,
        (t.step surroundings now event).service.observatory
          = t.service.observatory.enterAll entries
        ∧ entries.filter (Entry.counts Completion.isRequest)
          = Closing.entries surroundings.wall (t.closing? surroundings now event).toList := by
  by_cases settles : event = .settle
  · subst settles
    obtain ⟨-, entries, scripted, entered⟩ :=
      Service.enters_settle surroundings now regular.scripted
    exact ⟨entries, entered, Entry.filter_isRequest_of_scripted scripted⟩
  · exact ⟨_, observatory_step surroundings regular.orderly now settles,
      Closing.filter_entries _ _⟩

/-- What a history takes down of requests is what the exchanges leave that end in its course,
by induction on it.
-/
theorem enters_run (regular : t.Regular) (history : History)
    : ∃ entries,
        (t.run surroundings history).service.observatory
          = t.service.observatory.enterAll entries
        ∧ entries.filter (Entry.counts Completion.isRequest)
          = Closing.entries surroundings.wall (t.closings surroundings history) := by
  induction history generalizing t with
  | nil => exact ⟨[], rfl, rfl⟩
  | cons first rest ih =>
      obtain ⟨now, event⟩ := first
      obtain ⟨early, entered, own⟩ := enters_step surroundings regular now event
      obtain ⟨late, reentered, others⟩ := ih (regular.step surroundings now event)
      refine ⟨early ++ late, ?_, ?_⟩
      · rw [Observatory.enterAll_append, ← entered]
        exact reentered
      · rw [List.filter_append, own, others, closings, Closing.entries_append]

end Runs

-----------------------------------------------------------------------------------------
-- The law
-----------------------------------------------------------------------------------------

/-- The records of requests in the log, in the order in which they were written. -/
def requestRecords (t : Traffic) : List AccessRecord :=
  t.service.observatory.journal.toList.filterMap Record.request?

/-- What is recorded of the requests that have arrived, when some exchanges have ended and every
call is taken.

- `once`: the requests that have arrived have ended or wait, each of them once;
- `leftOut`: of the exchanges whose requests ask for no permission, those are left out whose
  path is one of the metrics or stray;
- `stray`: a stray request has no route;
- `logged`: the log has one record for each exchange that is not left out, in the order of
  their ends, and no other record of a request;
- `unrouted`: that of a request without a route is under the name of the nameless;
- `counted`: under every name that is not of the script of load runs every snapshot counts as
  many calls as the log has records, and as many failures as these show;
- `total`: so the calls that it reports of requests and the stray ones are together as many as
  the exchanges whose requests ask for no permission and are not to the metrics;
- `exact`: the former alone are as many if and only if none of these is stray.
-/
structure RecordingLaw (wall : WallClock) (arrived : List Request) (closed : List Closing)
    (last : Traffic) : Prop where
  once :
    arrived.Perm (closed.map Closing.request ++ last.waiting.map Pending.request)
  leftOut :
    ∀ c ∈ closed, c.request.verb ≠ permissionVerb
      → (c.observed = false
        ↔ c.request.path ∈ metricsPaths ∨ isStray c.request.path = true)
  stray :
    ∀ c ∈ closed, isStray c.request.path = true → Http.Route.ofPath? c.request.path = none
  logged :
    last.requestRecords = (closed.filter Closing.observed).map (Closing.record wall)
  unrouted :
    ∀ c ∈ closed, Http.Route.ofPath? c.request.path = none
      → (c.record wall).method = unknownMethod
  counted :
    ∀ (now : Time.Instant) (name : String), name ∉ Load.methods
      → (last.service.snapshot now).requests name
          = last.requestRecords.countP (fun record => record.method = name)
        ∧ (last.service.snapshot now).errors name
          = last.requestRecords.countP
              (fun record => record.method = name && record.status ≠ "OK")
  total :
    ∀ now : Time.Instant,
      (last.service.snapshot now).requestTotal + closed.countP Closing.astray
        = closed.countP Closing.elsewhere
  exact :
    ∀ now : Time.Instant,
      (last.service.snapshot now).requestTotal = closed.countP Closing.elsewhere
        ↔ ∀ c ∈ closed, c.astray = false

/-- What is recorded where the windows of the collector cannot be made: the requests that have
arrived have ended or wait, each of them once, those that are observed and not given up without an
answer, and none of them is in the log or in a snapshot.
-/
structure Unrecorded (arrived : List Request) (closed : List Closing) (last : Traffic)
    : Prop where
  once :
    arrived.Perm (closed.map Closing.request ++ last.waiting.map Pending.request)
  unanswered :
    ∀ c ∈ closed, c.observed = true → c.ending = .panicked ∨ c.ending = .dropped
  unlogged : last.requestRecords = []
  uncounted : ∀ now : Time.Instant, (last.service.snapshot now).rows = []

/-- Where no call is taken no observed exchange is answered, by induction on the history. -/
theorem unanswered_closings (surroundings : Load.Surroundings) {t : Traffic}
    (scripted : t.service.bench.control.Scripted)
    (refuses : ∀ call, t.service.observatory.takes call = false) (history : History)
    : ∀ c ∈ t.closings surroundings history,
        c.observed = true → c.ending = .panicked ∨ c.ending = .dropped := by
  induction history generalizing t with
  | nil => exact nofun
  | cons entry rest ih =>
      obtain ⟨now, event⟩ := entry
      have grown := grows_step surroundings scripted now event
      have later := ih grown.scripted fun call => grown.gains.taking ▸ refuses call
      refine List.forall_mem_append.mpr ⟨fun c member observed => ?_, later⟩
      have ended := Option.mem_toList.mp member
      exact (unanswered_of_refused ended observed (refuses _)).imp_right And.right

/-- Where the windows of the collector cannot be made no request is recorded. -/
theorem unrecorded_of_refused (surroundings : Load.Surroundings) {config : Config}
    (unfit : ¬ (opening config).service.observatory.Fits) (history : History)
    : Unrecorded (arrivals history) ((opening config).closings surroundings history)
        ((opening config).run surroundings history) := by
  have large : ¬ (Collector.new config.effectiveSamples).Fits := fun fits =>
    unfit fun c present => Option.some.inj present ▸ fits
  have refuses (call : Call) : (opening config).service.observatory.takes call = false :=
    Observatory.takes_new large rfl call
  constructor
  · simpa [opening] using perm_run surroundings (t := opening config) history
  · exact unanswered_closings surroundings (regular_opening config).scripted refuses history
  · obtain ⟨entries, entered, -⟩ := enters_run surroundings (regular_opening config) history
    rw [requestRecords, entered, Observatory.journal_enterAll]
    refine List.filterMap_eq_nil_iff.mpr fun record member => ?_
    rcases List.mem_append.mp member with before | written
    · cases before
    obtain ⟨entry, admitted, rfl⟩ := List.mem_map.mp written
    cases entry with
    | call k at_ =>
        have taken := (List.mem_filter.mp admitted).2
        cases taken.symm.trans (refuses k.call)
    | report record => rfl
  · intro now
    rw [Service.snapshot, collector_run_of_refused surroundings unfit]
    rfl

/-- Where every call is taken every request is recorded once when its exchange ends. -/
theorem recordingLaw_of_fits (surroundings : Load.Surroundings) {config : Config}
    (fits : (opening config).service.observatory.Fits) (history : History)
    : RecordingLaw surroundings.wall (arrivals history)
        ((opening config).closings surroundings history)
        ((opening config).run surroundings history) := by
  obtain ⟨entries, entered, own⟩ := enters_run surroundings (regular_opening config) history
  have kept := perm_run surroundings (t := opening config) history
  generalize (opening config).closings surroundings history = closed at own kept ⊢
  generalize (opening config).run surroundings history = last at entered kept ⊢
  obtain ⟨c, present, holds⟩ :=
    Observatory.holds_enterAll config.effectiveSamples entries
  have collects : (Collector.new config.effectiveSamples).Fits := fits _ rfl
  rw [collects.taken] at holds
  have written : last.service.observatory.journal.toList = entries.map Entry.record := by
    rw [entered, Observatory.journal_enterAll, fits.filter_admits]
    rfl
  have snapshot (now : Time.Instant) : last.service.snapshot now = c.snapshot now := by
    have collector : last.service.observatory.collector = some c := entered ▸ present
    rw [Service.snapshot, collector]
  have total (now : Time.Instant)
      : (last.service.snapshot now).requestTotal = (closed.filter Closing.observed).length := by
    calc
      (last.service.snapshot now).requestTotal
        = (entries.filterMap Entry.counted?).countP
            fun call => !Load.methods.contains (normalizeMethod call.method) := by
          rw [snapshot]
          exact holds.sum_requests fun name => !Load.methods.contains name
      _ = entries.countP (Entry.counts Completion.isRequest) := Entry.countP_counted entries
      _ = (Closing.entries surroundings.wall closed).length := by
          rw [← own, List.countP_eq_length_filter]
      _ = (closed.filter Closing.observed).length := List.length_map _
  have sum := Closing.length_observed_add closed
  have logged
      : last.requestRecords
        = (closed.filter Closing.observed).map (Closing.record surroundings.wall) := by
    rw [requestRecords, written, Entry.records_filter_isRequest, own, Closing.records_entries]
  constructor
  · simpa [opening] using kept
  · exact fun c _ asksNot => Closing.unobserved_iff asksNot
  · exact fun c _ stray => Http.ofPath?_of_isStray stray
  · exact logged
  · intro c _ unrouted
    rw [Closing.method_record]
    exact Service.name_unrouted unrouted
  · intro now name other
    obtain ⟨requests, errors⟩ := holds.figures now name
    rw [snapshot, requests, errors, Entry.length_callsNamed, Entry.countP_callsNamed, logged,
      Closing.countP_method, Closing.countP_status]
    have calls := Closing.countP_of_own own (Completion.isRequest_of_isNamed other)
    have failures := Closing.countP_of_own own (Completion.isRequest_of_isFailure other)
    exact ⟨calls, failures⟩
  · intro now
    rw [total, sum]
  · intro now
    rw [total, ← sum]
    simp [List.countP_eq_zero]

/-- Every request is recorded once when its exchange ends, for every history of requests, load
runs and reports, unless it asks for permission or its path is left out; and that of some
requests without a route is. Where the windows of the collector cannot be made none is.
-/
theorem recordingLaw (surroundings : Load.Surroundings) (config : Config) (history : History)
    : let closed := (opening config).closings surroundings history
      let last := (opening config).run surroundings history
      ((opening config).service.observatory.Fits
        → RecordingLaw surroundings.wall (arrivals history) closed last)
      ∧ (¬ (opening config).service.observatory.Fits → Unrecorded (arrivals history) closed last)
        := by
  constructor
  · exact fun fits => recordingLaw_of_fits surroundings fits history
  · exact fun unfit => unrecorded_of_refused surroundings unfit history

/-- A request to a path beside the metrics. -/
def strayRequest : Request :=
  ⟨"GET", "/api/metrics/nothing", [], []⟩

/-- It is answered as any request without a route, and leaves no trace: its path is not one of
the metrics, but neither the log nor the figures show it.
-/
theorem recordingLaw_strayRequest
    : let history : History := [(.zero, .arrive strayRequest)]
      let closed := (opening default).closings default history
      let last := (opening default).run default history
      strayRequest.path ∉ metricsPaths
      ∧ Http.Route.ofPath? strayRequest.path = none
      ∧ (∃ c, closed = [c] ∧ c.request = strayRequest ∧ outcome c.ending = .notFound)
      ∧ last.requestRecords = []
      ∧ ∀ now : Time.Instant,
          (last.service.snapshot now).requestTotal = 0
          ∧ closed.countP Closing.elsewhere = 1 := by
  intro history closed last
  have path : strayRequest.path = "/api/metrics/nothing" := by
    simp only [Request.path, strayRequest]
    decide
  have elsewhere : strayRequest.path ∉ metricsPaths := by
    rw [path]
    decide
  have stray : isStray strayRequest.path = true := by
    rw [path]
    decide
  have unrouted := Http.ofPath?_of_isStray stray
  have asksNot : strayRequest.verb ≠ permissionVerb := by decide
  have ended : closed
      = [⟨strayRequest, .zero, .zero,
          .returned (Service.sent (.zero - .zero) strayRequest (.bare 404))⟩] := by
    simp only [closed, history, closings, closing?, Service.accept_unrouted asksNot unrouted]
    rfl
  have law : RecordingLaw _ _ closed last := (recordingLaw default default history).1 (by decide)
  have unobserved : closed.filter Closing.observed = [] := by
    refine List.filter_eq_nil_iff.mpr fun c member => ?_
    rw [ended, List.mem_singleton] at member
    have request : c.request = strayRequest := by rw [member]
    rw [Bool.not_eq_true, Closing.unobserved_iff (request ▸ asksNot), request]
    exact .inr stray
  refine ⟨elsewhere, unrouted, ⟨_, ended, rfl, ?_⟩, ?_, fun now => ?_⟩
  · exact Service.outcome_sent _ _ _
  · rw [law.logged, unobserved]
    rfl
  · have one : closed.countP Closing.elsewhere = 1 := by
      simp [ended, Closing.elsewhere, asksNot, elsewhere]
    have strays : closed.countP Closing.astray = 1 := by
      simp [ended, Closing.astray, asksNot, stray]
    have total := law.total now
    exact ⟨by omega, one⟩

end Traffic

end CallWatch
