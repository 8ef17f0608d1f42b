import CallWatch.Proofs.Service.Relay

/-! How the results of handlers are classified.
A result tells its outcome itself, and so does the response that it is rendered to by its
status. The two tell the same of every result but the refusal of a start while load is running.
-/

namespace CallWatch

open Http (ServiceError respond)
open Service (LoadRequest LoadStatus Pending permissionVerb sent)

-----------------------------------------------------------------------------------------
-- Results
-----------------------------------------------------------------------------------------

theorem Outcome.mem_all (o : Outcome)
    : o ∈ all := by
  cases o <;> decide

/-- No two outcomes have one name. -/
theorem Outcome.name_inj {a b : Outcome}
    : a.name = b.name ↔ a = b := by
  have distinct : (all.map name).Nodup := by decide
  refine ⟨fun same => ?_, congrArg name⟩
  exact List.inj_on_of_nodup_map distinct (mem_all a) (mem_all b) same

namespace Http

/-- An error and its response tell the same outcome, except the one for a second start. -/
theorem outcome_response_iff (e : ServiceError)
    : outcome e.response = outcome e ↔ e ≠ .alreadyRunning := by
  cases e with
  | alreadyRunning => decide
  | notFound message | badRequest message | internal message =>
      refine ⟨fun _ => nofun, fun _ => ?_⟩
      rfl

/-- So do a result and its response. -/
theorem outcome_respond_iff {α : Type} (toJson : α → Json) (result : Except ServiceError α)
    : outcome (respond toJson result) = outcome result ↔ result ≠ .error .alreadyRunning := by
  cases result with
  | ok value =>
      refine ⟨fun _ => nofun, fun _ => ?_⟩
      rfl
  | error e =>
      rw [ne_eq, Except.error.injEq]
      exact outcome_response_iff e

end Http

/-- No look-up of a product says that load is running. -/
theorem Catalogue.lookup_ne (id : String)
    : lookup id ≠ .error .alreadyRunning := by
  unfold lookup
  split
  · exact nofun
  · split <;> exact nofun

namespace Service.LoadRequest

/-- What the handler of starts returns, given whether load control lets the run start. -/
def result (q : LoadRequest) (accepted : Bool) : Except ServiceError LoadStatus :=
  match q.profile with
  | .error e => .error e
  | .ok _ => LoadStatus.started q accepted

/-- A request within the bounds is refused since load is running. -/
def Refused (q : LoadRequest) (running : Bool) : Prop :=
  running = true ∧ ∃ profile, q.profile = .ok profile

/-- Bounds that are broken are reported as such. -/
theorem profile_ne (q : LoadRequest)
    : q.profile ≠ .error .alreadyRunning := by
  unfold profile
  split
  · exact nofun
  · split
    · exact nofun
    · split <;> exact nofun

/-- The result says that load is running if and only if the request is refused for that. -/
theorem result_eq_iff (q : LoadRequest) (running : Bool)
    : q.result (!running) = .error .alreadyRunning ↔ q.Refused running := by
  unfold result Refused
  cases bounds : q.profile with
  | error e =>
      have other : e ≠ .alreadyRunning := by
        rintro rfl
        exact q.profile_ne bounds
      simp [other]
  | ok profile => cases running <;> simp [LoadStatus.started]

end Service.LoadRequest

-----------------------------------------------------------------------------------------
-- Responses
-----------------------------------------------------------------------------------------

namespace Service

section Responses
variable {s : Service} {wall : WallClock} {now : Duration} {r : Http.Request} {p : Pending}
  {response : Http.Response}

/-- The handler of products responds with the result of a look-up. -/
theorem produced?_product {segment id : String}
    (routed : Http.Route.ofPath? r.path = some (.product segment))
    (accepted : (Http.Route.product segment).accepts r.verb = true)
    (named : Http.segmentText? segment = some id)
    : s.produced? wall now r = some (respond Product.json (Catalogue.lookup id)) := by
  simp [produced?, handle, routed, accepted, productResponse, named]

/-- The handler of starts reads the request, looks at its bounds and leaves the rest to load
control.
-/
theorem handle_start {instant : Time.Instant} {q : LoadRequest}
    (routed : Http.Route.ofPath? r.path = some .loadStart) (posted : r.verb = "POST")
    (read : LoadRequest.read r.headers r.body = .ok q)
    : s.handle instant r
      = match q.profile with
        | .error e => .answer e.response
        | .ok profile => .order (.start q profile) := by
  have accepted : Http.Route.loadStart.accepts r.verb = true := by
    rw [posted]
    decide
  cases bounds : q.profile with
  | error e => simp [handle, routed, accepted, handleStart, read, bounds]
  | ok profile => simp [handle, routed, accepted, handleStart, read, bounds]

/-- An order to start is answered with the result for the flag as it is. -/
theorem decided?_start {q : LoadRequest} {profile : LoadProfile}
    (order : p.order = .start q profile) (queued : p.task = .startQueued profile)
    (bounds : q.profile = .ok profile) (decided : s.decided? p = some response)
    : response = respond LoadStatus.json (q.result (!s.loadRunning)) := by
  have answer := Load.Task.run_startQueued p.number profile s.bench.control
  rw [← queued] at answer
  unfold decided? at decided
  split at decided
  · next value _ moved =>
    rw [moved] at answer
    split at answer
    · cases answer
    · cases answer
      cases decided
      rw [order, LoadRequest.result, bounds]
      rfl
  · cases decided

/-- So a start that arrives is answered with it, if it is answered at once. -/
theorem produced?_start {q : LoadRequest}
    (routed : Http.Route.ofPath? r.path = some .loadStart) (posted : r.verb = "POST")
    (read : LoadRequest.read r.headers r.body = .ok q)
    (produced : s.produced? wall now r = some response)
    : response = respond LoadStatus.json (q.result (!s.loadRunning)) := by
  rw [produced?, handle_start routed posted read] at produced
  cases bounds : q.profile with
  | error e =>
      rw [bounds] at produced
      cases produced
      rw [LoadRequest.result, bounds]
      rfl
  | ok profile =>
      rw [bounds] at produced
      exact decided?_start rfl rfl bounds produced

/-- One that has waited is answered with it as well. -/
theorem decided?_waiting {q : LoadRequest} (ordered : p.Ordered)
    (routed : Http.Route.ofPath? p.request.path = some .loadStart)
    (posted : p.request.verb = "POST")
    (read : LoadRequest.read p.request.headers p.request.body = .ok q)
    (decided : s.decided? p = some response)
    : response = respond LoadStatus.json (q.result (!s.loadRunning)) := by
  have handled := ordered.handled s default
  rw [handle_start routed posted read] at handled
  cases bounds : q.profile with
  | error e =>
      rw [bounds] at handled
      cases handled
  | ok profile =>
      rw [bounds] at handled
      have order : p.order = .start q profile := (Handling.order.inj handled).symm
      exact decided?_start order (ordered.queued q profile order) bounds decided

end Responses

end Service

-----------------------------------------------------------------------------------------
-- The law
-----------------------------------------------------------------------------------------

namespace Traffic

section Observed
variable {surroundings : Load.Surroundings} {t : Traffic} {now : Duration} {event : TrafficEvent}
  {c : Closing} {answer : Http.Response}

/-- An observed exchange is classified by the response of its handler. -/
theorem outcome_closing (ended : t.closing? surroundings now event = some c)
    (observed : c.observed = true) (returned : c.ending = .returned answer)
    : ∃ response, t.produced? surroundings now event = some response
        ∧ outcome c.ending = outcome response := by
  simp only [Closing.observed, Bool.and_eq_true, decide_eq_true_iff] at observed
  rcases ending_closing ended observed.1 with ⟨response, produced, ending⟩ | ⟨-, dropped⟩
  · refine ⟨response, produced, ?_⟩
    rw [returned] at ending ⊢
    rw [Service.endingWith_eq_returned ending.symm]
    exact Service.outcome_sent _ _ response
  · rw [returned] at dropped
    cases dropped

theorem outcome_product {segment id : String} (orderly : t.Orderly)
    (ended : t.closing? surroundings now event = some c) (observed : c.observed = true)
    (returned : c.ending = .returned answer)
    (routed : Http.Route.ofPath? c.request.path = some (.product segment))
    (accepted : (Http.Route.product segment).accepts c.request.verb = true)
    (named : Http.segmentText? segment = some id)
    : outcome c.ending = outcome (respond Product.json (Catalogue.lookup id)) := by
  obtain ⟨response, produced, same⟩ := outcome_closing ended observed returned
  rw [same]
  cases event with
  | arrive r =>
      obtain ⟨rfl, -, -⟩ := Service.Exchange.of_closing? ended
      rw [produced?, Service.produced?_product routed accepted named] at produced
      rw [Option.some.inj produced]
  | resume index =>
      -- No order waits for this handler.
      obtain ⟨p, found, moved⟩ := Option.bind_eq_some_iff.mp ended
      obtain ⟨request, -, -⟩ := Service.Exchange.of_closing? moved
      have handled := (orderly p (List.mem_of_getElem? found)).handled t.service default
      rw [← request] at handled
      simp [Service.handle, routed, accepted] at handled
  | abandon | settle | startReporter | stopReporter => cases produced

theorem outcome_start {q : LoadRequest} (orderly : t.Orderly)
    (ended : t.closing? surroundings now event = some c) (observed : c.observed = true)
    (returned : c.ending = .returned answer)
    (routed : Http.Route.ofPath? c.request.path = some .loadStart)
    (posted : c.request.verb = "POST")
    (read : LoadRequest.read c.request.headers c.request.body = .ok q)
    : outcome c.ending
      = outcome (respond LoadStatus.json (q.result (!t.service.loadRunning))) := by
  obtain ⟨response, produced, same⟩ := outcome_closing ended observed returned
  rw [same]
  cases event with
  | arrive r =>
      obtain ⟨rfl, -, -⟩ := Service.Exchange.of_closing? ended
      rw [Service.produced?_start routed posted read produced]
  | resume index =>
      obtain ⟨p, found, moved⟩ := Option.bind_eq_some_iff.mp ended
      obtain ⟨request, -, -⟩ := Service.Exchange.of_closing? moved
      rw [request] at routed posted read
      rw [produced?, found, Option.bind_some] at produced
      have ordered := orderly p (List.mem_of_getElem? found)
      rw [Service.decided?_waiting ordered routed posted read produced]
  | abandon | settle | startReporter | stopReporter => cases produced

end Observed

/-- How the results of the handlers of products and of starts are classified, when an event
happens to a service.

- `product`: a look-up and its response always tell the same outcome;
- `start`: the result of a start and its response tell the same outcome unless the start is
  within the bounds and refused, as load is running;
- `refused`: then the result tells a failed precondition, and the response something that exists
  already;
- `observedProduct`: so the record of an answered request for a product shows the outcome that
  the look-up tells;
- `observedStart`: and that of an answered start shows the outcome that the result tells, unless
  the start is refused as load is running.
-/
structure ClassificationLaw (surroundings : Load.Surroundings) (t : Traffic) (now : Duration)
    (event : TrafficEvent) : Prop where
  product :
    ∀ id, outcome (respond Product.json (Catalogue.lookup id)) = outcome (Catalogue.lookup id)
  start :
    ∀ (q : LoadRequest) (running : Bool),
      outcome (respond LoadStatus.json (q.result (!running))) = outcome (q.result (!running))
        ↔ ¬ q.Refused running
  refused :
    ∀ (q : LoadRequest) (running : Bool), q.Refused running
      → outcome (q.result (!running)) = .failedPrecondition
        ∧ outcome (respond LoadStatus.json (q.result (!running))) = .alreadyExists
  observedProduct :
    ∀ (c : Closing) (answer : Http.Response) (segment id : String),
      t.closing? surroundings now event = some c → c.observed = true
      → c.ending = .returned answer
      → Http.Route.ofPath? c.request.path = some (.product segment)
      → (Http.Route.product segment).accepts c.request.verb = true
      → Http.segmentText? segment = some id
      → (c.record surroundings.wall).status = (outcome (Catalogue.lookup id)).name
  observedStart :
    ∀ (c : Closing) (answer : Http.Response) (q : LoadRequest),
      t.closing? surroundings now event = some c → c.observed = true
      → c.ending = .returned answer
      → Http.Route.ofPath? c.request.path = some .loadStart → c.request.verb = "POST"
      → LoadRequest.read c.request.headers c.request.body = .ok q
      → ((c.record surroundings.wall).status = (outcome (q.result (!t.service.loadRunning))).name
        ↔ ¬ q.Refused t.service.loadRunning)

/-- The two classifications agree for every product and every start in every state of a service,
whatever has happened to it, except for a start that is refused as load is running.
-/
theorem classificationLaw (surroundings : Load.Surroundings) (s : Service) (history : History)
    (now : Duration) (event : TrafficEvent)
    : ClassificationLaw surroundings (run surroundings ⟨s, []⟩ history) now event := by
  have orderly := (orderly_new s).run surroundings history
  have product (id : String) := (Http.outcome_respond_iff Product.json (Catalogue.lookup id)).mpr
    (Catalogue.lookup_ne id)
  have start (q : LoadRequest) (running : Bool)
      : outcome (respond LoadStatus.json (q.result (!running))) = outcome (q.result (!running))
        ↔ ¬ q.Refused running := by
    rw [Http.outcome_respond_iff, ne_eq, LoadRequest.result_eq_iff]
  refine ⟨product, start, ?_, ?_, ?_⟩
  · intro q running refused
    rw [(q.result_eq_iff running).mpr refused]
    decide
  · intro c answer segment id ended observed returned routed accepted named
    rw [Closing.status_record, Closing.completion,
      outcome_product orderly ended observed returned routed accepted named, product]
  · intro c answer q ended observed returned routed posted read
    rw [Closing.status_record, Closing.completion, Outcome.name_inj,
      outcome_start orderly ended observed returned routed posted read, start]

/-- A request to start load with what it gives by default. -/
def startRequest : Http.Request :=
  ⟨"POST", "/api/load/start", [⟨"content-type", Text.Utf8.ofText "application/json"⟩], [0x7B, 0x7D]⟩

/-- A second start is logged as something that exists already, although its result tells a
failed precondition.
-/
theorem classificationLaw_startRequest
    : let t := run default ⟨.start default, []⟩ [(.zero, .arrive startRequest)]
      t.service.loadRunning = true
      ∧ ∃ c, t.closing? default .zero (.arrive startRequest) = some c
          ∧ c.observed = true
          ∧ (c.record (default : Load.Surroundings).wall).status = "AlreadyExists"
          ∧ (outcome (LoadRequest.result {} (!t.service.loadRunning))).name
            = "FailedPrecondition" := by
  intro t
  have law : ClassificationLaw default t .zero (.arrive startRequest) :=
    classificationLaw default (.start default) [(.zero, .arrive startRequest)] .zero
      (.arrive startRequest)
  have running : t.service.loadRunning = true := rfl
  have asksNot : startRequest.verb ≠ permissionVerb := by decide
  have produced : t.service.produced? (default : Load.Surroundings).wall .zero startRequest
      = some (respond LoadStatus.json (LoadRequest.result {} (!t.service.loadRunning))) := rfl
  have ended := Service.closing?_accept asksNot (default : Load.Surroundings).wall .zero t.service
  have taken : t.service.observatory.takes (Service.observedCall startRequest) = true :=
    Observatory.Fits.takes (by decide) _
  rw [produced, Option.map_some, Service.endingWith_of_takes taken] at ended
  have refused : LoadRequest.Refused {} t.service.loadRunning := ⟨running, _, rfl⟩
  obtain ⟨direct, rendered⟩ := law.refused {} t.service.loadRunning refused
  have seen : Service.observes startRequest = true := rfl
  refine ⟨running, _, ended, ?_, ?_, congrArg Outcome.name direct⟩
  · simp [Closing.observed, asksNot, seen]
  · rw [Closing.status_record]
    exact congrArg Outcome.name ((Service.outcome_sent _ _ _).trans rendered)

end Traffic

end CallWatch
