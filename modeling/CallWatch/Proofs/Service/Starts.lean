import CallWatch.Proofs.Load.Abandonment
import CallWatch.Proofs.Service.Admission
import CallWatch.Proofs.Service.Driving
import CallWatch.Proofs.Service.Likeness

/-! What a request to start does.
It begins a run if it is answered with the status 200, with the profile that it asks for, and
does nothing if it is answered otherwise: load goes on as if the request had never come. A run is
begun while another is under way only after a stop has been given up that waited for that run.
-/

namespace CallWatch

open Http (Request)
open Load (Floor Run)
open Service (Exchange Pending LoadRequest observedCall permissionVerb)

-----------------------------------------------------------------------------------------
-- Load control
-----------------------------------------------------------------------------------------

/-- The three ways in which a start goes on: it waits for the lock as it came, it finds the flag
up and leaves everything as it was, or it begins its run.
-/
inductive Load.Task.Started (profile : LoadProfile) (c : Load.Control)
    : Load.Progress × Load.Control → Prop
  | queued (taken : c.lock.isSome = true)
    : Started profile c (.stage (.startQueued profile), c)
  | refused (up : c.flag = true) : Started profile c (.answer false, c)
  | begun (free : c.lock = none) (down : c.flag = false)
    : Started profile c (.answer true, Floor.startedControl c profile)

/-- A start goes on in one of these ways, by cases on the lock and the flag. -/
theorem Load.Task.started (id : Nat) (profile : LoadProfile) (c : Load.Control)
    : Started profile c ((startQueued profile).run id 4 c) := by
  obtain ⟨flag, slot, lock, runs, nextRun⟩ := c
  cases lock with
  | some holder => exact .queued rfl
  | none =>
      cases flag with
      | true => exact .refused rfl
      | false => exact .begun rfl rfl

-----------------------------------------------------------------------------------------
-- Statuses
-----------------------------------------------------------------------------------------

/-- No error is answered with 200. -/
theorem Http.ServiceError.status_response_ne (e : Http.ServiceError)
    : e.response.status ≠ 200 := by
  have told : e.response.status = e.status := rfl
  rw [told]
  cases e <;> simp [status]

/-- No body that is not read is answered with 200. -/
theorem Service.LoadRequest.Refusal.status_response_ne (refusal : LoadRequest.Refusal)
    : refusal.response.status ≠ 200 := by
  cases refusal with
  | notJson | tooLong => decide
  | unreadable e =>
      simp only [response]
      split <;> simp [Http.Response.text]

-----------------------------------------------------------------------------------------
-- Requests to start
-----------------------------------------------------------------------------------------

/-- A request that is for the handler of starts. -/
structure Http.Request.Starts (r : Request) : Prop where
  routed : Http.Route.ofPath? r.path = some .loadStart
  posted : r.verb = "POST"

namespace Service

/-- A request asks for no profile: its body is not read, or it is outside the bounds. -/
def Malformed (r : Request) : Prop :=
  ∀ q profile, LoadRequest.read r.headers r.body = .ok q → q.profile ≠ .ok profile

/-- An exchange has ended, with an answer of some status, or with none where it has broken off. -/
inductive Exchange.Ended (status : Nat) : Exchange → Prop
  | answered {answer : Http.Response} (same : answer.status = status)
    : Ended status (.answered answer)
  | brokenOff : Ended status .brokenOff

theorem ended_conclude (wall : WallClock) (now startedAt : Duration) (r : Request)
    (response : Http.Response) (s : Service)
    : (s.conclude wall now startedAt r response).1.Ended response.status := by
  simp only [conclude]
  split
  · exact .answered (status_sent _ r response)
  · exact .brokenOff

/-- The three ways in which a service goes on with a request to start: the request waits for the
lock, and the service is as it was but for the number of the next order; it is refused, and nothing
has changed besides but what has been observed; or it begins its run.
-/
inductive Begins (s : Service) (r : Request) : Exchange × Service → Prop
  | queued {p : Pending} (taken : s.bench.control.lock.isSome = true) (nextOrder : Nat)
    : Begins s r (.waiting p, { s with nextOrder })
  | refused {e : Exchange} {status : Nat} {o : Observatory} (ended : e.Ended status)
    (failed : status ≠ 200) (cause : s.loadRunning = true ∨ Malformed r) (nextOrder : Nat)
    (taking : o.takes = s.observatory.takes)
    : Begins s r (e, { s.withObservatory o with nextOrder })
  | begun {e : Exchange} {q : LoadRequest} {profile : LoadProfile} {next : Service}
    (ended : e.Ended 200) (read : LoadRequest.read r.headers r.body = .ok q)
    (bounds : q.profile = .ok profile) (free : s.bench.control.lock = none)
    (down : s.loadRunning = false)
    (control : next.bench.control = Floor.startedControl s.bench.control profile)
    : Begins s r (e, next)

/-- The number of the next order does not matter. -/
theorem Begins.numbered {s : Service} {r : Request} {n : Nat} {result : Exchange × Service}
    (begins : Begins { s with nextOrder := n } r result)
    : s.Begins r result := by
  cases begins with
  | queued taken nextOrder => exact .queued (s := s) taken nextOrder
  | refused ended failed cause nextOrder taking =>
      exact .refused (s := s) ended failed cause nextOrder taking
  | begun ended read bounds free down control =>
      exact .begun ended read bounds free down control

section Begins
variable {s : Service} {wall : WallClock} {now : Duration} {r : Request} {p : Pending}
  {q : LoadRequest} {profile : LoadProfile}

/-- A call that is completed changes nothing but what has been observed. -/
theorem exists_completeCall (wall : WallClock) (now startedAt : Duration) (r : Request)
    (outcome : Outcome) (s : Service)
    : ∃ o, s.completeCall wall now startedAt r outcome = s.withObservatory o
        ∧ o.takes = s.observatory.takes := by
  unfold completeCall
  split
  · exact ⟨_, rfl, Observatory.takes_complete⟩
  · exact ⟨s.observatory, rfl, rfl⟩

/-- A request that is answered with a failure is refused. -/
theorem begins_conclude {response : Http.Response} (failed : response.status ≠ 200)
    (cause : s.loadRunning = true ∨ Malformed r) (startedAt : Duration)
    : s.Begins r (s.conclude wall now startedAt r response) := by
  obtain ⟨o, same, taking⟩ := exists_completeCall wall now startedAt r (outcome response) s
  have ended := ended_conclude wall now startedAt r response s
  rw [conclude, same] at ended ⊢
  exact .refused ended failed cause s.nextOrder taking

/-- An order to start that is taken up goes on in one of the three ways. -/
theorem begins_proceed (read : LoadRequest.read p.request.headers p.request.body = .ok q)
    (bounds : q.profile = .ok profile) (order : p.order = .start q profile)
    (queued : p.task = .startQueued profile)
    : s.Begins p.request (s.proceed wall now p) := by
  have moves := Load.Task.started p.number profile s.bench.control
  unfold proceed
  rw [queued]
  generalize Load.Task.run p.number 4 (.startQueued profile) s.bench.control = result at moves ⊢
  cases moves with
  | queued taken => exact .queued taken s.nextOrder
  | refused up =>
      have failed : (p.order.response false).status ≠ 200 := by
        rw [order]
        exact Http.ServiceError.status_response_ne .alreadyRunning
      exact begins_conclude failed (.inl up) p.startedAt
  | begun free down =>
      have ended := ended_conclude wall now p.startedAt p.request (p.order.response true)
        (s.withControl (Floor.startedControl s.bench.control profile))
      have ok : (p.order.response true).status = 200 := by
        rw [order]
        rfl
      rw [ok] at ended
      exact .begun ended read bounds free down (control_conclude ..)

/-- A body that is not read is answered at once. -/
theorem handle_unread {refusal : LoadRequest.Refusal} (starts : r.Starts)
    (unread : LoadRequest.read r.headers r.body = .error refusal) (s : Service)
    (instant : Time.Instant)
    : s.handle instant r = .answer refusal.response := by
  have accepted : Http.Route.loadStart.accepts r.verb = true := by
    rw [starts.posted]
    decide
  simp [handle, starts.routed, accepted, handleStart, unread]

/-- A request to start that arrives goes on in one of the three ways, by cases on how far the
handler gets with it.
-/
theorem begins_accept (starts : r.Starts)
    : s.Begins r (s.accept wall now r) := by
  have asksNot : r.verb ≠ permissionVerb := by
    rw [starts.posted]
    decide
  rw [accept, if_neg asksNot]
  cases read : LoadRequest.read r.headers r.body with
  | error refusal =>
      have malformed : Malformed r := fun q profile other _ => by cases read.symm.trans other
      simp only [handle_unread starts read]
      exact begins_conclude refusal.status_response_ne (.inr malformed) now
  | ok q =>
      have handled : s.handle (wall now) r = _ := handle_start starts.routed starts.posted read
      cases bounds : q.profile with
      | error e =>
          simp only [bounds] at handled
          have malformed : Malformed r := fun p profile other within => by
            cases read.symm.trans other
            cases bounds.symm.trans within
          simp only [handled]
          exact begins_conclude e.status_response_ne (.inr malformed) now
      | ok profile =>
          simp only [bounds] at handled
          simp only [handled]
          exact Begins.numbered
            (begins_proceed (p := ⟨s.nextOrder, r, now, _, _⟩) read bounds rfl rfl)

/-- A request to start that waits has been read, is within the bounds, and has done nothing yet. -/
theorem queued_of_starts (ordered : p.Ordered) (starts : p.request.Starts)
    : ∃ q profile,
        LoadRequest.read p.request.headers p.request.body = .ok q
        ∧ q.profile = .ok profile
        ∧ p.order = .start q profile
        ∧ p.task = .startQueued profile := by
  have handled := ordered.handled default default
  cases read : LoadRequest.read p.request.headers p.request.body with
  | error refusal => cases (handle_unread starts read default default).symm.trans handled
  | ok q =>
      rw [handle_start starts.routed starts.posted read] at handled
      cases bounds : q.profile with
      | error e =>
          rw [bounds] at handled
          cases handled
      | ok profile =>
          rw [bounds] at handled
          have order : p.order = .start q profile := (Handling.order.inj handled).symm
          exact ⟨q, profile, rfl, bounds, order, ordered.queued q profile order⟩

/-- The profile that a request asks for is that of its body, with defaults for what is left out. -/
theorem exists_members (read : LoadRequest.read r.headers r.body = .ok q)
    (bounds : q.profile = .ok profile)
    : ∃ members rest,
        Json.readRecord LoadRequest.shape (.start r.body) = .ok (members, rest)
        ∧ profile
          = ⟨members.natural "concurrency" 10,
              Duration.ofSeconds (members.natural "duration_secs" 30),
              members.natural "error_pct" 5⟩ := by
  obtain ⟨rfl, -⟩ := LoadRequest.profile_eq_ok_iff.mp bounds
  unfold LoadRequest.read at read
  split at read
  · cases read
  · split at read
    · cases read
    · split at read
      · next members rest found =>
        cases read
        exact ⟨members, rest, found, rfl⟩
      · cases read

end Begins

end Service

-----------------------------------------------------------------------------------------
-- The law
-----------------------------------------------------------------------------------------

namespace Traffic

/-- The request that an event is about, if it is about one. -/
def subject? (t : Traffic) : TrafficEvent → Option Request
  | .arrive r => some r
  | .resume index => t.waiting[index]?.map Pending.request
  | .abandon index => t.waiting[index]?.map Pending.request
  | _ => none

/-- With an event a client gets an answer of some status. -/
def Answers (surroundings : Load.Surroundings) (t : Traffic) (now : Duration)
    (event : TrafficEvent) (status : Nat) : Prop :=
  ∃ c answer,
    t.closing? surroundings now event = some c ∧ c.ending = .returned answer
    ∧ answer.status = status

/-- With an event an exchange breaks off, and the client gets no answer. -/
def BreaksOff (surroundings : Load.Surroundings) (t : Traffic) (now : Duration)
    (event : TrafficEvent) : Prop :=
  ∃ c, t.closing? surroundings now event = some c ∧ c.ending = .panicked

/-- A service has come to this while no stop was given up where it waited for a run at work. -/
def Spared (surroundings : Load.Surroundings) (t : Traffic) : Prop :=
  ∃ (s : Service) (history : History),
    Opens s ∧ SparesAll surroundings ⟨s, []⟩ history ∧ t = run surroundings ⟨s, []⟩ history

/-- An event begins the run that a request asks for: the lock was free and the flag down, and now
the flag is up, the slot has the handle of a new run, and that run has the profile of the body, with
10 workers, 30 seconds and 5 percent for what is left out.
-/
structure BeginsRun (surroundings : Load.Surroundings) (t : Traffic) (now : Duration)
    (event : TrafficEvent) (r : Request) : Prop where
  free : t.service.bench.control.lock = none
  down : t.service.loadRunning = false
  run :
    ∃ members rest,
      Json.readRecord LoadRequest.shape (.start r.body) = .ok (members, rest)
      ∧ (t.step surroundings now event).service.bench.control
        = Floor.startedControl t.service.bench.control
            ⟨members.natural "concurrency" 10,
              Duration.ofSeconds (members.natural "duration_secs" 30),
              members.natural "error_pct" 5⟩

/-- What a request to start does with an event that is about it.

- `untouched`: unless it is answered with 200, or breaks off, load control is as it was: the flag,
  the slot, the lock, and the runs with their workers and deadlines;
- `goesOn`: if it is answered with another status, then whatever comes later, load control goes on
  as it would have without the request, and the same calls are recorded;
- `begins`: if it is answered with 200, it begins its run;
- `alone`: then no run was there before, provided that no stop has been given up where it waited
  for a run at work;
- `brokenOff`: if it breaks off, its call is not taken, and load control is as it was or it begins
  its run.
-/
structure StartLaw (surroundings : Load.Surroundings) (t : Traffic) (now : Duration)
    (event : TrafficEvent) (r : Request) : Prop where
  untouched :
    ¬ t.Answers surroundings now event 200 → ¬ t.BreaksOff surroundings now event
    → (t.step surroundings now event).service.bench.control = t.service.bench.control
  goesOn :
    ∀ status, status ≠ 200 → t.Answers surroundings now event status
      → ∀ later,
          let after := t.step surroundings now event
          let without : Traffic := ⟨t.service, after.waiting⟩
          GoOn after.service.observatory t.service.observatory
            (after.run surroundings later) (without.run surroundings later)
  begins : t.Answers surroundings now event 200 → t.BeginsRun surroundings now event r
  alone :
    t.Spared surroundings → t.Answers surroundings now event 200
    → t.service.bench.control.runs = []
  brokenOff :
    t.BreaksOff surroundings now event
    → t.service.observatory.takes (observedCall r) = false
      ∧ ((t.step surroundings now event).service.bench.control = t.service.bench.control
        ∨ t.BeginsRun surroundings now event r)

section Law
variable {surroundings : Load.Surroundings} {t : Traffic} {now : Duration} {event : TrafficEvent}
  {r : Request}

/-- An event that is about a request to start gives it up, or goes on with it. -/
theorem begins_step (surroundings : Load.Surroundings) (now : Duration) (orderly : t.Orderly)
    (about : t.subject? event = some r) (starts : r.Starts)
    : ((∀ c, t.closing? surroundings now event = some c → c.ending = .dropped)
        ∧ (t.step surroundings now event).service.bench.control = t.service.bench.control)
      ∨ ∃ waiting result startedAt,
          t.service.Begins r result
          ∧ t.step surroundings now event = joined waiting result
          ∧ t.closing? surroundings now event = result.1.closing? r startedAt now := by
  cases event with
  | arrive r =>
      cases about
      exact .inr ⟨_, _, now, Service.begins_accept starts, rfl, rfl⟩
  | resume index =>
      obtain ⟨p, found, rfl⟩ := Option.map_eq_some_iff.mp about
      have ordered := orderly p (List.mem_of_getElem? found)
      obtain ⟨q, profile, read, bounds, order, queued⟩ :=
        Service.queued_of_starts ordered starts
      refine .inr ⟨t.waiting.eraseIdx index, t.service.proceed surroundings.wall now p,
        p.startedAt, Service.begins_proceed read bounds order queued, ?_, ?_⟩
      · simp only [step, found]
      · simp only [closing?, found, Option.bind_some]
  | abandon index =>
      obtain ⟨p, found, rfl⟩ := Option.map_eq_some_iff.mp about
      have ordered := orderly p (List.mem_of_getElem? found)
      obtain ⟨q, profile, -, -, -, queued⟩ := Service.queued_of_starts ordered starts
      refine .inl ⟨?_, ?_⟩
      · intro c ended
        simp only [closing?, found, Option.map_some, Option.some.injEq] at ended
        cases ended
        rfl
      · simp only [step, found, Service.control_abandon, queued]
        rfl
  | settle | startReporter | stopReporter => cases about

section Ended
variable {e : Exchange} {startedAt : Duration} {status told : Nat}

/-- The answer of an exchange is the one that is told. -/
theorem status_of_answers (ended : e.Ended told)
    (closed : t.closing? surroundings now event = e.closing? r startedAt now)
    (answers : t.Answers surroundings now event status)
    : status = told := by
  obtain ⟨c, answer, closes, returned, rfl⟩ := answers
  cases ended with
  | answered same =>
      cases closed.symm.trans closes
      cases returned
      exact same
  | brokenOff =>
      cases closed.symm.trans closes
      cases returned

/-- An exchange that has ended is answered or breaks off. -/
theorem answers_or_breaksOff (ended : e.Ended told)
    (closed : t.closing? surroundings now event = e.closing? r startedAt now)
    : t.Answers surroundings now event told ∨ t.BreaksOff surroundings now event := by
  cases ended with
  | answered same => exact .inl ⟨_, _, closed, rfl, same⟩
  | brokenOff => exact .inr ⟨_, closed, rfl⟩

/-- A request to start breaks off only if its call is not taken. -/
theorem refused_of_breaksOff (starts : r.Starts)
    (closed : t.closing? surroundings now event = e.closing? r startedAt now)
    (breaks : t.BreaksOff surroundings now event)
    : t.service.observatory.takes (observedCall r) = false := by
  obtain ⟨c, closes, broken⟩ := breaks
  obtain ⟨rfl, -, -⟩ := Exchange.of_closing? (closed.symm.trans closes)
  have asksNot : c.request.verb ≠ permissionVerb := by
    rw [starts.posted]
    decide
  exact refused_of_panicked closes asksNot broken

end Ended

/-- A request to start that arrives, and whose call is taken, is answered with 200 if and only if
the lock is free, the flag is down, and it asks for a profile.
-/
theorem answers_arrive_iff (starts : r.Starts)
    (taken : t.service.observatory.takes (observedCall r) = true)
    : t.Answers surroundings now (.arrive r) 200
      ↔ t.service.bench.control.lock = none ∧ t.service.loadRunning = false
        ∧ ¬ Service.Malformed r := by
  have begins : t.service.Begins r (t.service.accept surroundings.wall now r) :=
    Service.begins_accept starts
  have closed : t.closing? surroundings now (.arrive r)
      = (t.service.accept surroundings.wall now r).1.closing? r now now := rfl
  generalize t.service.accept surroundings.wall now r = result at begins closed
  cases begins with
  | queued locked =>
      refine iff_of_false ?_ ?_
      · rintro ⟨c, answer, closes, -⟩
        cases closed.symm.trans closes
      · rintro ⟨free, -⟩
        rw [free] at locked
        cases locked
  | refused ended failed cause =>
      refine iff_of_false (fun told => failed (status_of_answers ended closed told).symm) ?_
      rintro ⟨-, down, formed⟩
      rcases cause with up | malformed
      · cases down.symm.trans up
      · exact formed malformed
  | begun ended read bounds free down =>
      refine iff_of_true ?_ ⟨free, down, fun malformed => malformed _ _ read bounds⟩
      refine (answers_or_breaksOff ended closed).resolve_right fun breaks => ?_
      cases taken.symm.trans (refused_of_breaksOff starts closed breaks)

/-- A stop that is given up where it waits for a run at work leaves that run to itself: the next
request that asks for a profile, and whose call is taken, is answered with 200 while the run is at
work.
-/
theorem answers_beside_run {o : Observatory} {f : Floor} {index run : Nat} {p : Pending}
    {wasUp : Bool} (drives : Drives surroundings o t f)
    (waits : t.waiting[index]? = some p) (joining : p.task = .stopJoining wasUp run)
    (atWork : t.service.bench.control.AtWork run) (starts : r.Starts)
    (taken : t.service.observatory.takes (observedCall r) = true)
    (formed : ¬ Service.Malformed r)
    : let left := t.step surroundings now (.abandon index)
      left.Answers surroundings now (.arrive r) 200
      ∧ left.service.bench.control.AtWork run := by
  intro left
  have standing := drives.standing p (List.mem_of_getElem? waits)
  rw [joining] at standing
  obtain ⟨-, down, -⟩ := drives.invariant.1.stands p.number _ standing rfl
  have control : left.service.bench.control
      = (t.service.bench.control.reap run).unlock := by
    simp only [left, step, waits, Service.control_abandon, joining]
    rfl
  have takes : left.service.observatory.takes (observedCall r) = true := by
    simp only [left, step, waits, Service.abandon, Service.takes_completeCall]
    exact taken
  have stays : left.service.bench.control.AtWork run := by
    obtain ⟨r, member, named, up, whole⟩ := atWork
    rw [control]
    exact ⟨r, List.mem_filter.mpr ⟨member, by simp [whole]⟩, named, up, whole⟩
  refine ⟨(answers_arrive_iff starts takes).mpr ⟨?_, ?_, formed⟩, stays⟩
  · rw [control]
    rfl
  · rw [Service.loadRunning, control]
    exact drives.control ▸ down

/-- While no stop has been given up that waited for a run at work, no run is there while the lock
is free and the flag down.
-/
theorem runs_of_spared (spared : t.Spared surroundings)
    (free : t.service.bench.control.lock = none) (down : t.service.loadRunning = false)
    : t.service.bench.control.runs = [] := by
  obtain ⟨s, history, opens, spares, rfl⟩ := spared
  obtain ⟨f, drives⟩ := drives_of_opens surroundings opens
  obtain ⟨g, after⟩ := drives.run history spares
  obtain ⟨invariant, steady⟩ := after.invariant
  have same := after.control
  generalize run surroundings ⟨s, []⟩ history = t at after same free down ⊢
  have none := Floor.none_underway (invariant.free (same ▸ free)) (same ▸ down)
  rw [List.eq_nil_iff_forall_not_mem]
  intro r member
  rw [← same] at member
  exact none r.number ⟨r, member, rfl, steady.orderly.up r member⟩

end Law

/-- The law of starts holds of every request to start, with whatever headers and body, in every
state of a service, whatever has happened to it.
-/
theorem startLaw (surroundings : Load.Surroundings) (s : Service) (history : History)
    (now : Duration) (event : TrafficEvent) {r : Request} (starts : r.Starts)
    (about : (run surroundings ⟨s, []⟩ history).subject? event = some r)
    : StartLaw surroundings (run surroundings ⟨s, []⟩ history) now event r := by
  have orderly := (orderly_new s).run surroundings history
  generalize run surroundings ⟨s, []⟩ history = t at orderly about ⊢
  rcases begins_step surroundings now orderly about starts with
    ⟨dropped, same⟩ | ⟨waiting, result, startedAt, begins, stepped, closed⟩
  · have never (status : Nat) : ¬ t.Answers surroundings now event status := by
      rintro ⟨c, answer, closes, returned, -⟩
      cases (dropped c closes).symm.trans returned
    have whole : ¬ t.BreaksOff surroundings now event := by
      rintro ⟨c, closes, broken⟩
      cases (dropped c closes).symm.trans broken
    exact ⟨fun _ _ => same, fun status _ told => absurd told (never status),
      fun told => absurd told (never 200), fun _ told => absurd told (never 200),
      fun breaks => absurd breaks whole⟩
  cases begins with
  | queued _ nextOrder =>
      have never (status : Nat) : ¬ t.Answers surroundings now event status := by
        rintro ⟨c, answer, closes, -⟩
        cases closed.symm.trans closes
      have whole : ¬ t.BreaksOff surroundings now event := by
        rintro ⟨c, closes, -⟩
        cases closed.symm.trans closes
      refine ⟨fun _ _ => ?_, fun status _ told => absurd told (never status),
        fun told => absurd told (never 200), fun _ told => absurd told (never 200),
        fun breaks => absurd breaks whole⟩
      rw [stepped]
      rfl
  | @refused e _ o ended failed _ nextOrder taking =>
      have failed : ¬ t.Answers surroundings now event 200 := fun told =>
        failed (status_of_answers ended closed told).symm
      have same : (t.step surroundings now event).service.bench.control
          = t.service.bench.control := by
        rw [stepped, service_joined]
        rfl
      refine ⟨fun _ _ => same, fun status _ _ later => ?_, fun told => absurd told failed,
        fun _ told => absurd told failed,
        fun breaks => ⟨refused_of_breaksOff starts closed breaks, .inl same⟩⟩
      -- The service after the request and the one without it are alike, so they go on alike.
      have like : Like (t.step surroundings now event)
          ⟨t.service, (t.step surroundings now event).waiting⟩ := by
        rw [stepped]
        refine ⟨?_, rfl⟩
        rw [service_joined]
        exact ⟨rfl, rfl, .refl _, taking.symm⟩
      exact like.run surroundings later
  | begun ended read bounds free down control =>
      have run : t.BeginsRun surroundings now event r := by
        obtain ⟨members, rest, found, rfl⟩ := Service.exists_members read bounds
        refine ⟨free, down, members, rest, found, ?_⟩
        rw [stepped, service_joined]
        exact control
      refine ⟨fun other whole => ?_, fun status other answers => ?_, fun _ => run,
        fun spared _ => runs_of_spared spared free down,
        fun breaks => ⟨refused_of_breaksOff starts closed breaks, .inr run⟩⟩
      · exact ((answers_or_breaksOff ended closed).elim other whole).elim
      · exact absurd (status_of_answers ended closed answers) other

theorem starts_startRequest
    : startRequest.Starts :=
  ⟨by decide, rfl⟩

/-- A second start does nothing, and the first run is the only one. -/
theorem startLaw_startRequest
    : let t := run default ⟨.start default, []⟩ [(.zero, .arrive startRequest)]
      StartLaw default t .zero (.arrive startRequest) startRequest
      ∧ t.service.bench.control.runs.map Run.profile = [⟨10, Duration.ofSeconds 30, 5⟩]
      ∧ (t.step default .zero (.arrive startRequest)).service.bench.control
        = t.service.bench.control := by
  intro t
  have law : StartLaw default t .zero (.arrive startRequest) startRequest :=
    startLaw default (.start default) [(.zero, .arrive startRequest)] .zero _ starts_startRequest
      rfl
  have running : t.service.loadRunning = true := rfl
  have taken : t.service.observatory.takes (observedCall startRequest) = true :=
    Observatory.Fits.takes (by decide) _
  have refused : ¬ t.Answers default .zero (.arrive startRequest) 200 := by
    rw [answers_arrive_iff starts_startRequest taken, running]
    exact fun h => nomatch h.2.1
  have whole : ¬ t.BreaksOff default .zero (.arrive startRequest) := fun breaks => by
    cases taken.symm.trans (law.brokenOff breaks).1
  exact ⟨law, rfl, law.untouched refused whole⟩

/-- A request to stop load. -/
def stopRequest : Request :=
  ⟨"POST", "/api/load/stop", [], []⟩

/-- A stop is given up where it waits for a run whose workers are inside their calls. -/
def abandonedStop : History :=
  [ (.zero, .arrive startRequest), (.zero, .settle), (.zero, .arrive stopRequest),
    (.zero, .abandon 0) ]

/-- Then a start is answered with 200 while workers of the first run are live. -/
theorem answers_abandonedStop
    : let t := run default ⟨.start default, []⟩ abandonedStop
      t.service.bench.control.runs.any Run.live = true
      ∧ t.Answers default .zero (.arrive startRequest) 200 := by
  intro t
  have taken : t.service.observatory.takes (observedCall startRequest) = true :=
    Observatory.Fits.takes (by decide) _
  refine ⟨rfl, (answers_arrive_iff starts_startRequest taken).mpr
    ⟨rfl, rfl, fun malformed => ?_⟩⟩
  exact malformed {} ⟨10, Duration.ofSeconds 30, 5⟩ rfl rfl

end Traffic

end CallWatch
