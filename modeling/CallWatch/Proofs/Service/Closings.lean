import CallWatch.Proofs.Load.Driven
import CallWatch.Proofs.Service.Traffic

/-! How exchanges come to their ends.
A request that arrives is answered at once or waits with its order, and one that waits goes on
until it is answered or given up. Its exchange ends once, and only then is anything taken down
of it; where that breaks off, it ends without an answer.
-/

namespace CallWatch

open Http (Request)
open Service (Exchange Pending observedCall observes permissionVerb)

-----------------------------------------------------------------------------------------
-- Ends
-----------------------------------------------------------------------------------------

/-- An exchange that has come to its end: the client has its response, or it was given up, or its
completion has broken off and the client gets none.
-/
structure Closing where
  request : Request
  startedAt : Duration
  endedAt : Duration
  ending : Ending Http.Response

namespace Closing

/-- The exchange is observed: its request asks for no permission and its path is not left out. -/
def observed (c : Closing) : Bool :=
  c.request.verb ≠ permissionVerb && observes c.request

def completion (c : Closing) : Completion :=
  ⟨observedCall c.request, outcome c.ending, c.endedAt - c.startedAt⟩

def entry (wall : WallClock) (c : Closing) : Entry :=
  .call c.completion (wall c.endedAt)

/-- The access record of an exchange that has ended. -/
def record (wall : WallClock) (c : Closing) : AccessRecord :=
  c.completion.call.record c.completion.outcome c.completion.elapsed (wall c.endedAt)

theorem method_record (wall : WallClock) (c : Closing)
    : (c.record wall).method = (observedCall c.request).name := by
  simp only [record, Call.record, completion]

theorem status_record (wall : WallClock) (c : Closing)
    : (c.record wall).status = c.completion.outcome.name := by
  simp only [record, Call.record]

/-- What is taken down of exchanges that have ended. -/
def entries (wall : WallClock) (closed : List Closing) : List Entry :=
  (closed.filter observed).map (entry wall)

theorem entries_of_observed {wall : WallClock} {c : Closing} (observed : c.observed = true)
    : entries wall [c] = [c.entry wall] := by
  rw [entries, List.filter_singleton, observed]
  rfl

theorem entries_of_unobserved {wall : WallClock} {c : Closing} (unobserved : c.observed = false)
    : entries wall [c] = [] := by
  rw [entries, List.filter_singleton, unobserved]
  rfl

theorem entries_append (wall : WallClock) (closed more : List Closing)
    : entries wall (closed ++ more) = entries wall closed ++ entries wall more := by
  rw [entries, List.filter_append, List.map_append]
  rfl

end Closing

/-- The end of an exchange that has been answered or has broken off. -/
def Service.Exchange.closing? (r : Request) (startedAt now : Duration) : Exchange → Option Closing
  | .answered response => some ⟨r, startedAt, now, .returned response⟩
  | .waiting _ => none
  | .brokenOff => some ⟨r, startedAt, now, .panicked⟩

/-- It is the end of the exchange of its request, at the instant of the answer. -/
theorem Service.Exchange.of_closing? {r : Request} {startedAt now : Duration} {e : Exchange}
    {c : Closing} (ended : e.closing? r startedAt now = some c)
    : c.request = r ∧ c.startedAt = startedAt ∧ c.endedAt = now := by
  cases e with
  | waiting => cases ended
  | answered | brokenOff =>
      cases ended
      exact ⟨rfl, rfl, rfl⟩

namespace Traffic

/-- The exchange that ends with an event, if one does. -/
def closing? (surroundings : Load.Surroundings) (now : Duration) (t : Traffic)
    : TrafficEvent → Option Closing
  | .arrive r => (t.service.accept surroundings.wall now r).1.closing? r now now
  | .resume index =>
    t.waiting[index]?.bind fun p =>
      (t.service.proceed surroundings.wall now p).1.closing? p.request p.startedAt now
  | .abandon index => t.waiting[index]?.map fun p => ⟨p.request, p.startedAt, now, .dropped⟩
  | _ => none

/-- An exchange ends at the instant of its event. -/
theorem endedAt_closing? {surroundings : Load.Surroundings} {now : Duration} {t : Traffic}
    {event : TrafficEvent} {c : Closing} (ended : t.closing? surroundings now event = some c)
    : c.endedAt = now := by
  cases event with
  | arrive r => exact (Exchange.of_closing? ended).2.2
  | resume index =>
      obtain ⟨p, -, moved⟩ := Option.bind_eq_some_iff.mp ended
      exact (Exchange.of_closing? moved).2.2
  | abandon index =>
      obtain ⟨p, -, rfl⟩ := Option.map_eq_some_iff.mp ended
      rfl
  | settle | startReporter | stopReporter => cases ended

/-- The exchanges that end in the course of a history, in the order of their ends. -/
def closings (surroundings : Load.Surroundings) : Traffic → History → List Closing
  | _, [] => []
  | t, (now, event) :: rest =>
    (t.closing? surroundings now event).toList
      ++ closings surroundings (t.step surroundings now event) rest

end Traffic

-----------------------------------------------------------------------------------------
-- Answers
-----------------------------------------------------------------------------------------

namespace Service

/-- How the exchange of a request ends that its handler has answered. -/
def endingWith (now startedAt : Duration) (r : Request) (response : Http.Response) (s : Service)
    : Ending Http.Response :=
  if s.completes r then .returned (sent (now - startedAt) r response) else .panicked

theorem closing?_conclude (wall : WallClock) (now startedAt : Duration) (r : Request)
    (response : Http.Response) (s : Service)
    : (s.conclude wall now startedAt r response).1.closing? r startedAt now
      = some ⟨r, startedAt, now, s.endingWith now startedAt r response⟩ := by
  simp only [conclude, endingWith]
  split <;> rfl

/-- An observed exchange ends without an answer if its call is not taken. -/
theorem endingWith_of_refused {s : Service} {r : Request} (seen : observes r = true)
    (refused : s.observatory.takes (observedCall r) = false) (now startedAt : Duration)
    (response : Http.Response)
    : s.endingWith now startedAt r response = .panicked :=
  if_neg (by simp [completes, seen, refused])

/-- It ends with an answer if it is. -/
theorem endingWith_of_takes {s : Service} {r : Request}
    (taken : s.observatory.takes (observedCall r) = true) (now startedAt : Duration)
    (response : Http.Response)
    : s.endingWith now startedAt r response = .returned (sent (now - startedAt) r response) :=
  if_pos (by simp [completes, taken])

/-- The answer that it ends with, if any, is the response on its way out. -/
theorem endingWith_eq_returned {s : Service} {r : Request} {now startedAt : Duration}
    {response answer : Http.Response}
    (returned : s.endingWith now startedAt r response = .returned answer)
    : answer = sent (now - startedAt) r response := by
  unfold endingWith at returned
  split at returned
  · exact (Ending.returned.inj returned).symm
  · cases returned

end Service

-----------------------------------------------------------------------------------------
-- Orders that wait
-----------------------------------------------------------------------------------------

namespace Service

/-- A waiting order is the one that the handler gives for its request, in whatever state. One to
start has done nothing yet.
-/
structure Pending.Ordered (p : Pending) : Prop where
  asksNot : p.request.verb ≠ permissionVerb
  handled : ∀ (s : Service) (instant : Time.Instant), s.handle instant p.request = .order p.order
  queued :
    ∀ (q : LoadRequest) (profile : LoadProfile),
      p.order = .start q profile → p.task = .startQueued profile

section Orders
variable {s : Service} {wall : WallClock} {now : Duration} {r : Request} {p later : Pending}

/-- Orders depend on their requests alone, not on the state in which these are handled. -/
theorem handle_order {instant : Time.Instant} {order : Order}
    (handled : s.handle instant r = .order order) (other : Service) (later : Time.Instant)
    : other.handle later r = .order order := by
  unfold handle at handled ⊢
  split at handled
  · cases handled
  · split at handled
    · cases handled
    · next route _ accepted =>
      simp only [if_neg accepted]
      cases route with
      | ping | product | loadStatus | metrics | metricsStream => cases handled
      | loadStart | loadStop => exact handled

/-- An order that waits again is still the same, for the same request. -/
theorem Pending.Ordered.proceed (ordered : p.Ordered)
    (waits : (s.proceed wall now p).1 = .waiting later)
    : later.Ordered := by
  have goes := proceeds wall now p s
  generalize s.proceed wall now p = result at goes waits
  cases goes with
  | answer => exact absurd waits conclude_ne_waiting
  | wait moved =>
      cases waits
      refine ⟨ordered.asksNot, ordered.handled, fun q profile start => ?_⟩
      have stays := Load.Task.run_startQueued p.number profile s.bench.control
      rw [← ordered.queued q profile start, moved, ordered.queued q profile start] at stays
      split at stays <;> cases stays
      rfl

/-- A request that waits after its arrival waits with the order of its handler. -/
theorem ordered_of_accept (waits : (s.accept wall now r).1 = .waiting p)
    : p.Ordered ∧ p.request = r := by
  have taken := accepts wall now r s
  generalize s.accept wall now r = result at taken waits
  cases taken with
  | permission => cases waits
  | answer => exact absurd waits conclude_ne_waiting
  | @order order asksNot handled =>
      have fresh : (⟨s.nextOrder, r, now, order, order.task⟩ : Pending).Ordered := by
        refine ⟨asksNot, handle_order handled, ?_⟩
        rintro q profile rfl
        rfl
      exact ⟨fresh.proceed waits, request_proceed waits⟩

-----------------------------------------------------------------------------------------
-- What is taken down
-----------------------------------------------------------------------------------------

/-- The length, the timing and the permission that go with a response leave its status alone. -/
theorem status_sent (elapsed : Duration) (r : Request) (response : Http.Response)
    : (sent elapsed r response).status = response.status := by
  unfold sent withLength withoutBody
  split <;> split <;> split <;> rfl

theorem outcome_sent (elapsed : Duration) (r : Request) (response : Http.Response)
    : outcome (sent elapsed r response) = outcome response :=
  congrArg Outcome.ofStatus (status_sent elapsed r response)

/-- A call that is completed leaves its entry, if it is observed. -/
theorem observatory_completeCall (asksNot : r.verb ≠ permissionVerb) (startedAt : Duration)
    (ending : Ending Http.Response)
    : (s.completeCall wall now startedAt r (outcome ending)).observatory
      = s.observatory.enterAll (Closing.entries wall [⟨r, startedAt, now, ending⟩]) := by
  unfold completeCall
  split
  · next seen =>
    rw [Closing.entries_of_observed (by simp [Closing.observed, asksNot, seen])]
    rfl
  · next unseen =>
    rw [Closing.entries_of_unobserved (by simp [Closing.observed, unseen])]
    rfl

/-- A completion that breaks off leaves the service as it was. -/
theorem completeCall_of_refused (refused : s.completes r = false) (startedAt : Duration)
    (outcome : Outcome)
    : s.completeCall wall now startedAt r outcome = s := by
  simp only [completes, Bool.or_eq_false_iff] at refused
  unfold completeCall
  split
  · rw [Observatory.complete_of_refused refused.2]
    rfl
  · rfl

/-- A request that is answered, or whose completion breaks off, leaves what its exchange leaves. -/
theorem observatory_conclude (asksNot : r.verb ≠ permissionVerb) (startedAt : Duration)
    (response : Http.Response)
    : (s.conclude wall now startedAt r response).2.observatory
      = s.observatory.enterAll
          (Closing.entries wall
            ((s.conclude wall now startedAt r response).1.closing? r startedAt now).toList) := by
  simp only [conclude]
  cases whole : s.completes r with
  | true =>
      simp only [if_true, Exchange.closing?, Option.toList_some]
      rw [← observatory_completeCall asksNot]
      exact congrArg
        (fun o => (s.completeCall wall now startedAt r o).observatory)
        (outcome_sent (now - startedAt) r response).symm
  | false =>
      simp only [Bool.false_eq_true, if_false, Exchange.closing?, Option.toList_some]
      rw [← observatory_completeCall asksNot, completeCall_of_refused whole,
        completeCall_of_refused whole]

/-- An order that goes on leaves what its exchange leaves, if that ends. -/
theorem observatory_proceed (wall : WallClock) (now : Duration) (s : Service)
    (asksNot : p.request.verb ≠ permissionVerb)
    : (s.proceed wall now p).2.observatory
      = s.observatory.enterAll
          (Closing.entries wall
            ((s.proceed wall now p).1.closing? p.request p.startedAt now).toList) := by
  have goes := proceeds wall now p s
  generalize s.proceed wall now p = result at goes ⊢
  cases goes with
  | answer => exact observatory_conclude (s := s.withControl _) asksNot p.startedAt _
  | wait => rfl

/-- A request that arrives leaves what its exchange leaves, if that ends at once. -/
theorem observatory_accept (wall : WallClock) (now : Duration) (r : Request) (s : Service)
    : (s.accept wall now r).2.observatory
      = s.observatory.enterAll
          (Closing.entries wall ((s.accept wall now r).1.closing? r now now).toList) := by
  have taken := accepts wall now r s
  generalize s.accept wall now r = result at taken ⊢
  cases taken with
  | permission asks =>
      simp only [Exchange.closing?, Option.toList_some]
      rw [Closing.entries_of_unobserved (by simp [Closing.observed, asks])]
      rfl
  | answer asksNot => exact observatory_conclude asksNot now _
  | @order order asksNot =>
      exact observatory_proceed wall now { s with nextOrder := s.nextOrder + 1 }
        (p := ⟨s.nextOrder, r, now, order, order.task⟩) asksNot

end Orders

end Service

-----------------------------------------------------------------------------------------
-- Events
-----------------------------------------------------------------------------------------

namespace Traffic

/-- The orders that wait are those of the handlers of their requests. -/
def Orderly (t : Traffic) : Prop :=
  ∀ p ∈ t.waiting, p.Ordered

/-- No order waits at first. -/
theorem orderly_new (s : Service)
    : Orderly ⟨s, []⟩ :=
  fun _ member => nomatch member

section Events
variable (surroundings : Load.Surroundings) {t : Traffic}

theorem Orderly.joined {waiting : List Pending} {result : Exchange × Service}
    (orderly : ∀ p ∈ waiting, p.Ordered) (joins : ∀ p, result.1 = .waiting p → p.Ordered)
    : (joined waiting result).Orderly := by
  obtain ⟨exchange, next⟩ := result
  cases exchange with
  | answered | brokenOff => exact orderly
  | waiting p =>
      exact List.forall_mem_append.mpr ⟨orderly, List.forall_mem_singleton.mpr (joins p rfl)⟩

/-- Every event keeps the waiting orders those of their handlers. -/
theorem Orderly.step (orderly : t.Orderly) (now : Duration) (event : TrafficEvent)
    : (t.step surroundings now event).Orderly := by
  have others (index : Nat) : ∀ p ∈ t.waiting.eraseIdx index, p.Ordered :=
    fun p member => orderly p (List.mem_of_mem_eraseIdx member)
  cases event with
  | arrive r => exact .joined orderly fun p waits => (Service.ordered_of_accept waits).1
  | resume index =>
      simp only [Traffic.step]
      split
      · next p found =>
        exact .joined (others index) fun later waits =>
          (orderly p (List.mem_of_getElem? found)).proceed waits
      · exact orderly
  | abandon index =>
      simp only [Traffic.step]
      split
      · exact others index
      · exact orderly
  | settle | startReporter | stopReporter => exact orderly

/-- So does a history, by induction on it. -/
theorem Orderly.run (orderly : t.Orderly) (history : History)
    : (t.run surroundings history).Orderly := by
  induction history generalizing t with
  | nil => exact orderly
  | cons entry rest ih => exact ih (orderly.step surroundings entry.1 entry.2)

/-- What an event takes down, unless it is left to load runs and the reporter, is what the
exchange leaves that ends with it.
-/
theorem observatory_step (orderly : t.Orderly) (now : Duration) {event : TrafficEvent}
    (unsettled : event ≠ .settle)
    : (t.step surroundings now event).service.observatory
      = t.service.observatory.enterAll
          (Closing.entries surroundings.wall (t.closing? surroundings now event).toList) := by
  cases event with
  | arrive r =>
      simp only [step, service_joined]
      exact Service.observatory_accept surroundings.wall now r t.service
  | resume index =>
      simp only [step, closing?]
      split
      · next p found =>
        rw [service_joined, found]
        exact Service.observatory_proceed surroundings.wall now t.service
          (orderly p (List.mem_of_getElem? found)).asksNot
      · next found =>
        rw [found]
        rfl
  | abandon index =>
      simp only [step, closing?]
      split
      · next p found =>
        rw [found, Option.map_some, Option.toList_some]
        exact Service.observatory_completeCall (s := t.service.withControl _)
          (orderly p (List.mem_of_getElem? found)).asksNot p.startedAt .dropped
      · next found =>
        rw [found]
        rfl
  | settle => exact absurd rfl unsettled
  | startReporter | stopReporter => rfl

end Events

-----------------------------------------------------------------------------------------
-- Exchanges without an answer
-----------------------------------------------------------------------------------------

section Unanswered
variable {surroundings : Load.Surroundings} {t : Traffic} {now : Duration}
  {event : TrafficEvent} {c : Closing}

/-- An observed exchange whose call is not taken ends without an answer, or is given up; by cases
on the event.
-/
theorem unanswered_of_refused (ended : t.closing? surroundings now event = some c)
    (observed : c.observed = true)
    (refused : t.service.observatory.takes (observedCall c.request) = false)
    : c.ending = .panicked ∨ (∃ index, event = .abandon index) ∧ c.ending = .dropped := by
  simp only [Closing.observed, Bool.and_eq_true, decide_eq_true_iff] at observed
  obtain ⟨asksNot, seen⟩ := observed
  have goesOn {p : Pending} {s : Service} (same : s.observatory = t.service.observatory)
      (request : c.request = p.request)
      (moved
        : (s.proceed surroundings.wall now p).1.closing? p.request p.startedAt now = some c)
      : c.ending = .panicked := by
    have goes := Service.proceeds surroundings.wall now p s
    generalize s.proceed surroundings.wall now p = result at goes moved
    cases goes with
    | answer =>
        rw [Service.closing?_conclude] at moved
        cases moved
        exact Service.endingWith_of_refused seen (same ▸ refused) _ _ _
    | wait => cases moved
  cases event with
  | arrive r =>
      left
      obtain ⟨request, -, -⟩ := Exchange.of_closing? ended
      have accepted := Service.accepts surroundings.wall now r t.service
      simp only [closing?] at ended
      generalize t.service.accept surroundings.wall now r = result at accepted ended
      cases accepted with
      | permission asks => exact absurd (request ▸ asks) asksNot
      | answer =>
          rw [Service.closing?_conclude] at ended
          cases ended
          exact Service.endingWith_of_refused seen refused _ _ _
      | @order order =>
          exact goesOn (p := ⟨t.service.nextOrder, r, now, order, order.task⟩)
            (s := { t.service with nextOrder := t.service.nextOrder + 1 }) rfl request ended
  | resume index =>
      left
      obtain ⟨p, -, moved⟩ := Option.bind_eq_some_iff.mp ended
      exact goesOn rfl (Exchange.of_closing? moved).1 moved
  | abandon index =>
      right
      obtain ⟨p, -, rfl⟩ := Option.map_eq_some_iff.mp ended
      exact ⟨⟨index, rfl⟩, rfl⟩
  | settle | startReporter | stopReporter => cases ended

end Unanswered

-----------------------------------------------------------------------------------------
-- Requests that come and go
-----------------------------------------------------------------------------------------

section Coming
variable (surroundings : Load.Surroundings) {t : Traffic}

/-- An exchange that is joined to others has ended or waits with them. -/
theorem perm_joined {r : Request} {result : Exchange × Service}
    (same : ∀ p, result.1 = .waiting p → p.request = r) (waiting : List Pending)
    (startedAt now : Duration)
    : (waiting.map Pending.request ++ [r]).Perm
        ((result.1.closing? r startedAt now).toList.map Closing.request
          ++ (joined waiting result).waiting.map Pending.request) := by
  obtain ⟨exchange, next⟩ := result
  cases exchange with
  | answered | brokenOff => exact List.perm_append_comm
  | waiting p =>
      rw [← same p rfl]
      simp [joined, Exchange.closing?]

/-- The requests that wait are any one of them and the others. -/
theorem perm_eraseIdx {waiting : List Pending} {index : Nat} {p : Pending}
    (found : waiting[index]? = some p)
    : (waiting.map Pending.request).Perm
        ((waiting.eraseIdx index).map Pending.request ++ [p.request]) := by
  obtain ⟨inside, rfl⟩ := List.getElem?_eq_some_iff.mp found
  have taken := (List.getElem_cons_eraseIdx_perm inside).symm.map Pending.request
  exact taken.trans (List.perm_append_singleton _ _).symm

/-- With an event no request is lost and none is made up: those that waited and the one that
arrives have ended with it, or wait.
-/
theorem perm_step (now : Duration) (event : TrafficEvent)
    : (t.waiting.map Pending.request ++ event.request?.toList).Perm
        ((t.closing? surroundings now event).toList.map Closing.request
          ++ (t.step surroundings now event).waiting.map Pending.request) := by
  cases event with
  | arrive r =>
      exact perm_joined (fun p waits => (Service.ordered_of_accept waits).2) t.waiting now now
  | resume index =>
      simp only [step, closing?]
      split
      · next p found =>
        simp only [found, Option.bind_some, TrafficEvent.request?, Option.toList_none,
          List.append_nil]
        exact (perm_eraseIdx found).trans
          (perm_joined (fun later waits => Service.request_proceed waits) _ p.startedAt now)
      · next found => simp [found, TrafficEvent.request?]
  | abandon index =>
      simp only [step, closing?]
      split
      · next p found =>
        simp only [found, Option.map_some, TrafficEvent.request?, Option.toList_none,
          List.append_nil]
        exact (perm_eraseIdx found).trans List.perm_append_comm
      · next found => simp [found, TrafficEvent.request?]
  | settle | startReporter | stopReporter =>
      simp [step, closing?, TrafficEvent.request?]

/-- Nor is it in the course of a history, by induction on it. -/
theorem perm_run (history : History)
    : (t.waiting.map Pending.request ++ arrivals history).Perm
        ((t.closings surroundings history).map Closing.request
          ++ (t.run surroundings history).waiting.map Pending.request) := by
  induction history generalizing t with
  | nil => simp [arrivals, closings, Traffic.run]
  | cons first rest ih =>
      obtain ⟨now, event⟩ := first
      rw [arrivals_cons, closings, List.map_append, List.append_assoc, ← List.append_assoc]
      refine ((perm_step surroundings now event).append_right _).trans ?_
      rw [List.append_assoc]
      exact ih.append_left _

end Coming

end Traffic

end CallWatch
