import CallWatch.Proofs.Observation.HeaderIds
import CallWatch.Proofs.Service.Closings

/-! What a client and a reader of the log get of an observed request.
The client gets the response of the handler, to which observation adds the time that it took.
The log gets one record when the exchange ends, with the name of the route, the outcome of the
response and the ids that the headers show, and the collector gets the same call. A collector
that does not take the call breaks all of this off.
-/

namespace CallWatch

open Http (Request)
open Service (Exchange Pending Order observedCall observes permissionVerb sent)

-----------------------------------------------------------------------------------------
-- Fields
-----------------------------------------------------------------------------------------

namespace Http.Response

@[simp] theorem body_setField (r : Response) (name value : String)
    : (r.setField name value).body = r.body := rfl

/-- A field that is set is there with its new value, and every other is as it was. -/
theorem field?_setField (r : Response) (name value key : String)
    : (r.setField name value).field? key = if key = name then some value else r.field? key := by
  obtain ⟨status, fields, body⟩ := r
  simp only [field?, setField]
  induction fields with
  | nil =>
      by_cases same : key = name
      · simp [same]
      · have other : (key == name) = false := beq_eq_false_iff_ne.mpr same
        simp [List.lookup_cons, same, other]
  | cons field rest ih =>
      obtain ⟨first, old⟩ := field
      by_cases here : key = first
      · subst here
        by_cases replaced : key = name
        · simpa [replaced] using ih
        · simp [replaced]
      · have other : (key == first) = false := beq_eq_false_iff_ne.mpr here
        by_cases replaced : first = name
        · subst replaced
          simpa [List.lookup_cons, other] using ih
        · simpa [List.lookup_cons, replaced, other] using ih

end Http.Response

namespace Service

/-- The names of the fields that tell how long a request took. -/
def timingFields : List String :=
  ["x-response-time-us", "server-timing"]

/-- The response of a handler as it is sent where nothing is observed. -/
def untimed (r : Request) (response : Http.Response) : Http.Response :=
  withExposure (withoutBody r.verb (withLength response))

section Sent
variable {r : Request}

theorem sent_of_observed (observed : observes r = true) (elapsed : Duration)
    (response : Http.Response)
    : sent elapsed r response
      = withExposure (withTiming elapsed (withoutBody r.verb (withLength response))) := by
  simp [sent, observed]

/-- What the client gets of the response of a handler to a request that is observed.

- `status` and `body`: they are those of the response, but a request for the fields alone gets
  no body;
- `fields`: all fields but the two that tell the time are as they are sent where nothing is
  observed;
- `micros` and `millis`: these two tell the time that the request took.
-/
structure Relays (elapsed : Duration) (r : Request) (response answer : Http.Response) : Prop where
  status : answer.status = response.status
  body : answer.body = if r.verb = "HEAD" then .whole "" else response.body
  fields :
    ∀ name, name ∉ timingFields → answer.field? name = (untimed r response).field? name
  micros : answer.field? "x-response-time-us" = some (Text.decimal elapsed.micros)
  millis : answer.field? "server-timing" = some ("total;dur=" ++ millisText elapsed)

theorem body_withLength (response : Http.Response)
    : (withLength response).body = response.body := by
  unfold withLength
  split <;> rfl

theorem body_withoutBody (verb : String) (response : Http.Response)
    : (withoutBody verb response).body
      = if verb = "HEAD" then .whole "" else response.body := by
  unfold withoutBody
  split <;> rfl

/-- Observation relays the response of a handler. -/
theorem relays_sent (observed : observes r = true) (elapsed : Duration)
    (response : Http.Response)
    : Relays elapsed r response (sent elapsed r response) where
  status := status_sent elapsed r response
  body := by
    rw [sent_of_observed observed]
    simp only [withExposure, withOrigin, withTiming, Http.Response.body_setField,
      body_withoutBody, body_withLength]
  fields := by
    intro name other
    simp only [timingFields, List.mem_cons, List.not_mem_nil, or_false, not_or] at other
    rw [sent_of_observed observed]
    simp only [untimed, withExposure, withOrigin, withTiming, Http.Response.field?_setField,
      if_neg other.1, if_neg other.2]
  micros := by
    rw [sent_of_observed observed]
    simp [withExposure, withOrigin, withTiming, Http.Response.field?_setField]
  millis := by
    rw [sent_of_observed observed]
    simp [withExposure, withOrigin, withTiming, Http.Response.field?_setField]

end Sent

-----------------------------------------------------------------------------------------
-- Responses of handlers
-----------------------------------------------------------------------------------------

/-- The response to an order that goes on, if load control decides on it. -/
def decided? (p : Pending) (s : Service) : Option Http.Response :=
  match Load.Task.run p.number 4 p.task s.bench.control with
  | (.answer value, _) => some (p.order.response value)
  | (.stage _, _) => none

/-- The response of the handler of a request that arrives, if it has one at once. -/
def produced? (wall : WallClock) (now : Duration) (r : Request) (s : Service)
    : Option Http.Response :=
  match s.handle (wall now) r with
  | .answer response => some response
  | .order order => s.decided? ⟨s.nextOrder, r, now, order, order.task⟩

section Produced
variable {s : Service} {wall : WallClock} {now : Duration} {r : Request} {p later : Pending}

/-- An exchange that goes on ends with what is made of the response to its order. -/
theorem closing?_proceed (wall : WallClock) (now : Duration) (s : Service) (p : Pending)
    : (s.proceed wall now p).1.closing? p.request p.startedAt now
      = (s.decided? p).map fun response =>
          ⟨p.request, p.startedAt, now, s.endingWith now p.startedAt p.request response⟩ := by
  have goes := proceeds wall now p s
  generalize s.proceed wall now p = result at goes ⊢
  cases goes with
  | answer moved =>
      rw [decided?, moved, closing?_conclude]
      rfl
  | wait moved =>
      rw [decided?, moved]
      rfl

/-- An exchange that ends as soon as its request arrives ends with what is made of the response
of the handler.
-/
theorem closing?_accept (asksNot : r.verb ≠ permissionVerb) (wall : WallClock) (now : Duration)
    (s : Service)
    : (s.accept wall now r).1.closing? r now now
      = (s.produced? wall now r).map fun response =>
          ⟨r, now, now, s.endingWith now now r response⟩ := by
  have taken := accepts wall now r s
  generalize s.accept wall now r = result at taken ⊢
  cases taken with
  | permission asks => exact absurd asks asksNot
  | answer _ handled =>
      rw [produced?, handled, closing?_conclude]
      rfl
  | @order order _ handled =>
      rw [produced?, handled]
      exact closing?_proceed wall now { s with nextOrder := s.nextOrder + 1 }
        ⟨s.nextOrder, r, now, order, order.task⟩

/-- An order that waits again cannot go on before load control has changed. -/
theorem stuck_of_proceed (waits : (s.proceed wall now p).1 = .waiting later)
    : (s.proceed wall now p).2.ready later = false := by
  have goes := proceeds wall now p s
  generalize s.proceed wall now p = result at goes waits ⊢
  cases goes with
  | answer => exact absurd waits conclude_ne_waiting
  | wait moved =>
      cases waits
      have stuck := Load.Task.stuck_of_run p.task.stepsLeft_le moved
      exact Option.isSome_eq_false_iff.mpr (Option.isNone_iff_eq_none.mpr stuck)

theorem stuck_of_accept (waits : (s.accept wall now r).1 = .waiting p)
    : (s.accept wall now r).2.ready p = false := by
  have taken := accepts wall now r s
  generalize s.accept wall now r = result at taken waits ⊢
  cases taken with
  | permission => cases waits
  | answer => exact absurd waits conclude_ne_waiting
  | order => exact stuck_of_proceed waits

end Produced

end Service

-----------------------------------------------------------------------------------------
-- The law
-----------------------------------------------------------------------------------------

/-- What the record of an exchange tells.

- `method`: the verb and the pattern of the route, or the name of the nameless;
- `status` and `answered`: the name of the outcome, which is that of the status that the client
  gets if it gets a response;
- `requestId` and `userId`: the ids that the headers show, or the empty text;
- `context`: it is the record of a call whose context are the headers themselves.
-/
structure Closing.Describes (wall : WallClock) (c : Closing) (record : AccessRecord) : Prop where
  method :
    Http.isToken c.request.verb = true
      → record.method
        = match Http.Route.ofPath? c.request.path with
          | some route => c.request.verb ++ " " ++ route.pattern
          | none => unknownMethod
  status : record.status = (outcome c.ending).name
  answered :
    ∀ answer, c.ending = .returned answer
      → record.status = (Outcome.ofStatus answer.status).name
  requestId : ShowsId c.request.headers "x-request-id" record.requestId
  userId : ShowsId c.request.headers "x-user-id" record.userId
  context :
    record
      = Call.record ⟨c.request.methodName?, CallContext.ofHeaders c.request.headers⟩
          (outcome c.ending) (c.endedAt - c.startedAt) (wall c.endedAt)

/-- The record that an exchange leaves describes it. -/
theorem Closing.describes_record (wall : WallClock) (c : Closing)
    : c.Describes wall (c.record wall) where
  method := by
    intro token
    rw [method_record]
    cases found : Http.Route.ofPath? c.request.path with
    | none => exact Service.name_unrouted found
    | some route =>
        simp only [Call.name, observedCall, Request.methodName?, found, Option.map_some,
          Option.getD_some]
        exact Http.normalizeMethod_routed token route
  status := status_record wall c
  answered := by
    intro answer answered
    rw [status_record, completion, answered]
    rfl
  requestId := showsId_headerId c.request.headers "x-request-id"
  userId := showsId_headerId c.request.headers "x-user-id"
  context := rfl

namespace Traffic

/-- The response of a handler that an event brings about, if it brings one about. -/
def produced? (surroundings : Load.Surroundings) (now : Duration) (t : Traffic)
    : TrafficEvent → Option Http.Response
  | .arrive r => t.service.produced? surroundings.wall now r
  | .resume index => t.waiting[index]?.bind fun p => t.service.decided? p
  | _ => none

/-- What an event does for observed requests.

- `handled`: an order that waits is the one that the handler gives for its request, whatever
  the state;
- `once`: the requests that waited and the one that arrives have ended with the event or wait,
  each of them once;
- `prompt`: a request that arrives is answered at once, or its order waits and cannot go on;
- `relayed`: if an observed exchange ends whose call is taken, the client gets the response of
  the handler, with the time added, or it has given the request up;
- `recorded`: the log gets the one record that describes the exchange, and the collector the
  one call of the same name and outcome;
- `brokenOff`: if the call is not taken, the handler had a response and the client gets none, or
  it has given the request up; and nothing is taken down;
- `silent`: an event by which no exchange ends takes nothing down, unless it is left to load
  runs and the reporter.
-/
structure RelayLaw (surroundings : Load.Surroundings) (t : Traffic) (now : Duration)
    (event : TrafficEvent) : Prop where
  handled :
    ∀ p ∈ t.waiting, ∀ (s : Service) (instant : Time.Instant),
      s.handle instant p.request = .order p.order
  once :
    (t.waiting.map Pending.request ++ event.request?.toList).Perm
      ((t.closing? surroundings now event).toList.map Closing.request
        ++ (t.step surroundings now event).waiting.map Pending.request)
  prompt :
    ∀ r, event = .arrive r
      → (∃ c, t.closing? surroundings now event = some c ∧ c.request = r)
        ∨ ∃ p ∈ (t.step surroundings now event).waiting,
            p.request = r ∧ (t.step surroundings now event).service.ready p = false
  relayed :
    ∀ c, t.closing? surroundings now event = some c → c.observed = true
      → t.service.observatory.takes (observedCall c.request) = true
      → (∃ response answer, t.produced? surroundings now event = some response
          ∧ c.ending = .returned answer
          ∧ Service.Relays (now - c.startedAt) c.request response answer)
        ∨ (∃ index, event = .abandon index) ∧ c.ending = .dropped
  recorded :
    ∀ c, t.closing? surroundings now event = some c → c.observed = true
      → t.service.observatory.takes (observedCall c.request) = true
      → ∃ record, c.Describes surroundings.wall record
          ∧ (t.step surroundings now event).service.observatory.journal
            = t.service.observatory.journal.push (.access record)
          ∧ (t.step surroundings now event).service.observatory.collector
            = t.service.observatory.collector.map fun collector =>
                collector.record record.method (outcome c.ending) (now - c.startedAt)
  brokenOff :
    ∀ c, t.closing? surroundings now event = some c → c.observed = true
      → t.service.observatory.takes (observedCall c.request) = false
      → ((∃ response, t.produced? surroundings now event = some response)
            ∧ c.ending = .panicked
          ∨ (∃ index, event = .abandon index) ∧ c.ending = .dropped)
        ∧ (t.step surroundings now event).service.observatory = t.service.observatory
  silent :
    t.closing? surroundings now event = none → event ≠ .settle
      → (t.step surroundings now event).service.observatory = t.service.observatory

variable {surroundings : Load.Surroundings} {t : Traffic} {now : Duration} {event : TrafficEvent}
  {c : Closing}

theorem prompt_arrive {r : Request}
    : (∃ c, t.closing? surroundings now (.arrive r) = some c ∧ c.request = r)
      ∨ ∃ p ∈ (t.step surroundings now (.arrive r)).waiting,
          p.request = r ∧ (t.step surroundings now (.arrive r)).service.ready p = false := by
  have same {p : Pending} (waits : (t.service.accept surroundings.wall now r).1 = .waiting p)
      : p.request = r :=
    (Service.ordered_of_accept waits).2
  have stuck {p : Pending} (waits : (t.service.accept surroundings.wall now r).1 = .waiting p)
      : (t.service.accept surroundings.wall now r).2.ready p = false :=
    Service.stuck_of_accept waits
  simp only [closing?, step]
  generalize t.service.accept surroundings.wall now r = result at same stuck ⊢
  obtain ⟨exchange, next⟩ := result
  cases exchange with
  | answered | brokenOff => exact .inl ⟨_, rfl, rfl⟩
  | waiting p => exact .inr ⟨p, List.mem_append_right _ (.head _), same rfl, stuck rfl⟩

/-- An exchange that asks for no permission ends with what is made of the response of its
handler, or is given up; by cases on the event.
-/
theorem ending_closing (ended : t.closing? surroundings now event = some c)
    (asksNot : c.request.verb ≠ permissionVerb)
    : (∃ response, t.produced? surroundings now event = some response
        ∧ c.ending = t.service.endingWith now c.startedAt c.request response)
      ∨ (∃ index, event = .abandon index) ∧ c.ending = .dropped := by
  cases event with
  | arrive r =>
      left
      obtain ⟨rfl, -, -⟩ := Exchange.of_closing? ended
      rw [closing?, Service.closing?_accept asksNot] at ended
      obtain ⟨response, produced, same⟩ := Option.map_eq_some_iff.mp ended
      rw [← same]
      exact ⟨response, produced, rfl⟩
  | resume index =>
      left
      obtain ⟨p, found, moved⟩ := Option.bind_eq_some_iff.mp ended
      rw [Service.closing?_proceed] at moved
      obtain ⟨response, decided, rfl⟩ := Option.map_eq_some_iff.mp moved
      refine ⟨response, ?_, rfl⟩
      rw [produced?, found, Option.bind_some, decided]
  | abandon index =>
      right
      obtain ⟨p, -, rfl⟩ := Option.map_eq_some_iff.mp ended
      exact ⟨⟨index, rfl⟩, rfl⟩
  | settle | startReporter | stopReporter => cases ended

/-- An exchange breaks off only if its call is not taken. -/
theorem refused_of_panicked (ended : t.closing? surroundings now event = some c)
    (asksNot : c.request.verb ≠ permissionVerb) (broken : c.ending = .panicked)
    : t.service.observatory.takes (observedCall c.request) = false := by
  rcases ending_closing ended asksNot with ⟨response, -, ending⟩ | ⟨-, dropped⟩
  · cases taken : t.service.observatory.takes (observedCall c.request) with
    | false => rfl
    | true =>
        rw [broken, Service.endingWith_of_takes taken] at ending
        cases ending
  · cases broken.symm.trans dropped

/-- An observed exchange whose call is taken ends with the response of its handler on its way out,
or is given up.
-/
theorem relayed_closing (ended : t.closing? surroundings now event = some c)
    (observed : c.observed = true)
    (taken : t.service.observatory.takes (observedCall c.request) = true)
    : (∃ response answer, t.produced? surroundings now event = some response
        ∧ c.ending = .returned answer
        ∧ Service.Relays (now - c.startedAt) c.request response answer)
      ∨ (∃ index, event = .abandon index) ∧ c.ending = .dropped := by
  simp only [Closing.observed, Bool.and_eq_true, decide_eq_true_iff] at observed
  refine (ending_closing ended observed.1).imp_left ?_
  rintro ⟨response, produced, ending⟩
  rw [Service.endingWith_of_takes taken] at ending
  exact ⟨response, _, produced, ending, Service.relays_sent observed.2 _ response⟩

/-- One whose call is not taken ends without the response of its handler, or is given up, and
nothing is taken down of it.
-/
theorem brokenOff_closing (orderly : t.Orderly) (ended : t.closing? surroundings now event = some c)
    (observed : c.observed = true)
    (refused : t.service.observatory.takes (observedCall c.request) = false)
    : ((∃ response, t.produced? surroundings now event = some response)
          ∧ c.ending = .panicked
        ∨ (∃ index, event = .abandon index) ∧ c.ending = .dropped)
      ∧ (t.step surroundings now event).service.observatory = t.service.observatory := by
  have unsettled : event ≠ .settle := by
    rintro rfl
    cases ended
  constructor
  · simp only [Closing.observed, Bool.and_eq_true, decide_eq_true_iff] at observed
    refine (ending_closing ended observed.1).imp_left ?_
    rintro ⟨response, produced, ending⟩
    rw [Service.endingWith_of_refused observed.2 refused] at ending
    exact ⟨⟨response, produced⟩, ending⟩
  · rw [observatory_step surroundings orderly now unsettled, ended, Option.toList_some,
      Closing.entries_of_observed observed]
    exact Observatory.complete_of_refused refused

/-- It leaves one record in the log and one call in the collector. -/
theorem recorded_closing (orderly : t.Orderly) (ended : t.closing? surroundings now event = some c)
    (observed : c.observed = true)
    (taken : t.service.observatory.takes (observedCall c.request) = true)
    : (t.step surroundings now event).service.observatory.journal
        = t.service.observatory.journal.push (.access (c.record surroundings.wall))
      ∧ (t.step surroundings now event).service.observatory.collector
        = t.service.observatory.collector.map fun collector =>
            collector.record (c.record surroundings.wall).method (outcome c.ending)
              (now - c.startedAt) := by
  have unsettled : event ≠ .settle := by
    rintro rfl
    cases ended
  have entered := observatory_step surroundings orderly now unsettled
  rw [ended, Option.toList_some, Closing.entries_of_observed observed] at entered
  rw [entered, ← endedAt_closing? ended, Closing.method_record]
  constructor
  · exact Observatory.journal_complete.trans (if_pos taken)
  · exact Observatory.collector_complete

/-- An observed request is relayed and recorded as it is, for every state of a service and all
that has happened to it since, whatever happens next.
-/
theorem relayLaw (surroundings : Load.Surroundings) (s : Service) (history : History)
    (now : Duration) (event : TrafficEvent)
    : RelayLaw surroundings (run surroundings ⟨s, []⟩ history) now event := by
  have orderly := (orderly_new s).run surroundings history
  constructor
  · exact fun p member => (orderly p member).handled
  · exact perm_step surroundings now event
  · rintro r rfl
    exact prompt_arrive
  · exact fun c ended observed taken => relayed_closing ended observed taken
  · exact fun c ended observed taken =>
      ⟨_, c.describes_record surroundings.wall, recorded_closing orderly ended observed taken⟩
  · exact fun c ended observed refused => brokenOff_closing orderly ended observed refused
  · intro none unsettled
    rw [observatory_step surroundings orderly now unsettled, none]
    rfl

/-- A request that tells its id twice and whose user id is not visible. -/
def pingWithIds : Request :=
  ⟨"GET", "/api/ping",
    [ ⟨"X-Request-ID", [0x72, 0x2D, 0x39]⟩, ⟨"x-request-id", [0x72]⟩, ⟨"X-User-Id", [0x75, 0xC3]⟩ ],
    []⟩

theorem path_pingWithIds
    : pingWithIds.path = "/api/ping" := by
  simp only [Request.path, pingWithIds]
  decide

theorem route_pingWithIds
    : Http.Route.ofPath? pingWithIds.path = some .ping := by
  rw [path_pingWithIds]
  decide

/-- It is observed, however its exchange ends. -/
theorem observed_pingWithIds (ending : Ending Http.Response)
    : (⟨pingWithIds, .zero, .zero, ending⟩ : Closing).observed = true := by
  have seen : observes pingWithIds = true := by
    rw [observes, path_pingWithIds]
    decide
  have asksNot : pingWithIds.verb ≠ permissionVerb := by decide
  simp [Closing.observed, asksNot, seen]

/-- Its exchange ends at once with what is made of the text of its handler. -/
theorem closing?_pingWithIds (config : Config)
    : (opening config).closing? default .zero (.arrive pingWithIds)
      = some ⟨pingWithIds, .zero, .zero,
          (opening config).service.endingWith .zero .zero pingWithIds (.text 200 "pong")⟩ := by
  have produced (wall : WallClock) (s : Service)
      : s.produced? wall .zero pingWithIds = some (.text 200 "pong") := by
    have accepted : Http.Route.ping.accepts pingWithIds.verb = true := by decide
    simp [Service.produced?, Service.handle, route_pingWithIds, accepted]
  have asksNot : pingWithIds.verb ≠ permissionVerb := by decide
  have ended := Service.closing?_accept asksNot (default : Load.Surroundings).wall .zero
    (opening config).service
  rwa [produced, Option.map_some] at ended

/-- It is answered at once, and its record shows the first request id and no user. With the
greatest capacity that a signed word can tell it gets no answer and leaves no record.
-/
theorem relayLaw_pingWithIds
    : (∃ c record,
        (opening default).closing? default .zero (.arrive pingWithIds) = some c
        ∧ c.observed = true
        ∧ ((opening default).step default .zero (.arrive pingWithIds)).service.observatory.journal
          = #[.access record]
        ∧ (record.method, record.status, record.requestId, record.userId)
          = ("GET /api/ping", "OK", "r-9", ""))
      ∧ let large := opening { maxLatencySamples := 9223372036854775807 }
        (∃ c,
          large.closing? default .zero (.arrive pingWithIds) = some c
          ∧ c.observed = true
          ∧ c.ending = .panicked)
        ∧ (large.step default .zero (.arrive pingWithIds)).service.observatory
          = large.service.observatory := by
  have law (config : Config) : RelayLaw default (opening config) .zero (.arrive pingWithIds) :=
    relayLaw default (.start config) [] .zero (.arrive pingWithIds)
  constructor
  · have ended := closing?_pingWithIds default
    have taken : (opening default).service.observatory.takes (observedCall pingWithIds) = true :=
      Observatory.Fits.takes (by decide) _
    rw [Service.endingWith_of_takes taken] at ended
    obtain ⟨record, describes, logged, -⟩ :=
      (law default).recorded _ ended (observed_pingWithIds _) taken
    have method : record.method = "GET /api/ping" := by
      rw [describes.method (by decide), route_pingWithIds]
      decide
    have status : record.status = "OK" := describes.status.trans
      (congrArg Outcome.name (Service.outcome_sent _ _ _))
    have ids : (record.requestId, record.userId) = ("r-9", "") := by
      rw [describes.context, Call.record]
      decide
    refine ⟨_, record, ended, observed_pingWithIds _, logged, ?_⟩
    rw [method, status, (Prod.mk.inj ids).1, (Prod.mk.inj ids).2]
  · intro large
    have refused : large.service.observatory.takes (observedCall pingWithIds) = false :=
      Observatory.takes_new (by decide) rfl _
    have ended := closing?_pingWithIds { maxLatencySamples := 9223372036854775807 }
    obtain ⟨broken, same⟩ := (law _).brokenOff _ ended (observed_pingWithIds _) refused
    obtain ⟨-, panicked⟩ | ⟨⟨index, gaveUp⟩, -⟩ := broken
    · exact ⟨⟨_, ended, observed_pingWithIds _, panicked⟩, same⟩
    · cases gaveUp

end Traffic

end CallWatch
