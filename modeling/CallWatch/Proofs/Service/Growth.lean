import CallWatch.Proofs.Http.Observed
import CallWatch.Proofs.Load.Scripted
import CallWatch.Proofs.Reporter.Shift

/-! How a service gains names.
Whatever a service does, the names that it gains are those of the script of its load runs and
the name of the request that it answers or gives up.
-/

namespace CallWatch

open Http (Request)

-----------------------------------------------------------------------------------------
-- Arrivals and orders
-----------------------------------------------------------------------------------------

namespace Service

/-- The three ways in which a request is taken: as a question for permission, with an answer at
once, or as an order.
-/
inductive Accepts (wall : WallClock) (now : Duration) (r : Request) (s : Service)
    : Exchange × Service → Prop
  | permission (asks : r.verb = permissionVerb)
    : Accepts wall now r s (.answered (permission (Http.Route.ofPath? r.path)), s)
  | answer {response : Http.Response} (asksNot : r.verb ≠ permissionVerb)
    (handled : s.handle (wall now) r = .answer response)
    : Accepts wall now r s (s.conclude wall now now r response)
  | order {order : Order} (asksNot : r.verb ≠ permissionVerb)
    (handled : s.handle (wall now) r = .order order)
    : Accepts wall now r s
        ({ s with nextOrder := s.nextOrder + 1 }.proceed wall now
          ⟨s.nextOrder, r, now, order, order.task⟩)

/-- The two ways in which an order goes on: load control decides on it and the request is
answered, or it waits again.
-/
inductive Proceeds (wall : WallClock) (now : Duration) (p : Pending) (s : Service)
    : Exchange × Service → Prop
  | answer {value : Bool} {control : Load.Control}
    (moved : Load.Task.run p.number 4 p.task s.bench.control = (.answer value, control))
    : Proceeds wall now p s
        ((s.withControl control).conclude wall now p.startedAt p.request (p.order.response value))
  | wait {task : Load.Task} {control : Load.Control}
    (moved : Load.Task.run p.number 4 p.task s.bench.control = (.stage task, control))
    : Proceeds wall now p s (.waiting { p with task }, s.withControl control)

section Acceptance
variable {r : Request} {s : Service}

/-- A request that the handler has answered does not wait. -/
theorem conclude_ne_waiting {wall : WallClock} {now startedAt : Duration}
    {response : Http.Response} {p : Pending}
    : (s.conclude wall now startedAt r response).1 ≠ .waiting p := by
  simp only [conclude]
  split <;> exact nofun

theorem accepts (wall : WallClock) (now : Duration) (r : Request) (s : Service)
    : Accepts wall now r s (s.accept wall now r) := by
  unfold accept
  split
  · next asks => exact .permission asks
  · next asksNot =>
    split
    · next handled => exact .answer asksNot handled
    · next handled => exact .order asksNot handled

/-- A request without a route is answered at once. -/
theorem accept_unrouted {wall : WallClock} {now : Duration}
    (asksNot : r.verb ≠ permissionVerb) (unrouted : Http.Route.ofPath? r.path = none)
    : s.accept wall now r = s.conclude wall now now r (.bare 404) := by
  rw [accept, if_neg asksNot, handle, unrouted]

theorem proceeds (wall : WallClock) (now : Duration) (p : Pending) (s : Service)
    : Proceeds wall now p s (s.proceed wall now p) := by
  unfold proceed
  split
  · next moved => exact .answer moved
  · next moved => exact .wait moved

/-- The verbs that routes take are standard. -/
theorem standard_of_accepts {route : Http.Route} {verb : String}
    (accepted : route.accepts verb = true)
    : verb ∈ Http.standardVerbs := by
  have verbs : verb = "POST" ∨ verb = "GET" ∨ verb = "HEAD" := by
    simp only [Http.Route.accepts] at accepted
    split at accepted
    · exact .inl (of_decide_eq_true accepted)
    · exact .inr (by simpa using accepted)
  rcases verbs with rfl | rfl | rfl <;> decide

/-- No request with an extension verb leads to an order. -/
theorem standard_of_order {instant : Time.Instant} {order : Order}
    (handled : s.handle instant r = .order order)
    : r.verb ∈ Http.standardVerbs := by
  simp only [handle] at handled
  split at handled
  · cases handled
  · split at handled
    · cases handled
    · next accepted => exact standard_of_accepts (by simpa using accepted)

end Acceptance

end Service

-----------------------------------------------------------------------------------------
-- Growth
-----------------------------------------------------------------------------------------

namespace Service

/-- A service has gained names of some kind, and its load runs keep to their script. -/
structure Grows (kind : String → Prop) (s next : Service) : Prop where
  scripted : next.bench.control.Scripted
  gains : s.observatory.Gains kind next.observatory

/-- If a request is observed, its name is of some kind. -/
def Names (kind : String → Prop) (r : Request) : Prop :=
  observes r = true → kind (observedCall r).name

section Growth
variable {kind : String → Prop} {s next : Service} {wall : WallClock} {now startedAt : Duration}
  {r : Request} {p : Pending}

/-- What has grown from a service with other load control has grown from it. -/
theorem Grows.of_withControl {c : Load.Control} (grown : Grows kind (s.withControl c) next)
    : Grows kind s next :=
  ⟨grown.scripted, grown.gains⟩

/-- Names of a kind are names of a wider kind. -/
theorem Grows.mono {wider : String → Prop} (grown : Grows kind s next)
    (wide : ∀ name, kind name → wider name)
    : Grows wider s next :=
  ⟨grown.scripted, grown.gains.mono wide⟩

theorem grows_completeCall (outcome : Outcome) (scripted : s.bench.control.Scripted)
    (names : Names kind r)
    : Grows kind s (s.completeCall wall now startedAt r outcome) := by
  unfold completeCall
  split
  · next observed => exact ⟨scripted, Observatory.gains_complete _ _ _ (names observed)⟩
  · exact ⟨scripted, .refl⟩

theorem grows_conclude (response : Http.Response) (scripted : s.bench.control.Scripted)
    (names : Names kind r)
    : Grows kind s (s.conclude wall now startedAt r response).2 :=
  grows_completeCall (outcome response) scripted names

/-- An observed request that is answered, and whose call is taken, has its name in the collector
from then on.
-/
theorem name_mem_conclude (response : Http.Response)
    (counting : s.observatory.collector.isSome = true) (observed : observes r = true)
    (taken : s.observatory.takes (observedCall r) = true)
    : (observedCall r).name ∈ (s.conclude wall now startedAt r response).2.observatory.names := by
  simp only [conclude, completeCall, if_pos observed]
  exact Observatory.mem_names_complete.mpr (.inl ⟨counting, taken, rfl⟩)

/-- An order that goes on gains the name of its request at most, when it is answered. -/
theorem grows_proceed (wall : WallClock) (now : Duration)
    (scripted : s.bench.control.Scripted) (names : Names kind p.request)
    : Grows kind s (s.proceed wall now p).2 := by
  have after := scripted.run p.number 4 p.task
  have goes := proceeds wall now p s
  generalize s.proceed wall now p = result at goes ⊢
  cases goes with
  | answer moved =>
      rw [moved] at after
      exact (grows_conclude _ after names).of_withControl
  | wait moved =>
      rw [moved] at after
      exact ⟨after, .refl⟩

/-- It is still the order of the same request. -/
theorem request_proceed {later : Pending} (waits : (s.proceed wall now p).1 = .waiting later)
    : later.request = p.request := by
  have goes := proceeds wall now p s
  generalize s.proceed wall now p = result at goes waits
  cases goes with
  | answer => exact absurd waits conclude_ne_waiting
  | wait =>
      cases waits
      rfl

theorem grows_abandon (wall : WallClock) (now : Duration)
    (scripted : s.bench.control.Scripted) (names : Names kind p.request)
    : Grows kind s (s.abandon wall now p) :=
  (grows_completeCall _ (scripted.drop p.task) names).of_withControl

/-- What is due takes down calls of the script and reports alone. -/
theorem enters_settle (surroundings : Load.Surroundings) (now : Duration)
    (scripted : s.bench.control.Scripted)
    : (s.settle surroundings now).bench.control.Scripted
      ∧ s.observatory.Enters (· ∈ Load.methods) (s.settle surroundings now).observatory := by
  unfold settle
  split
  · exact Load.Bench.scripted_settle surroundings now scripted
  · next loop _ =>
    obtain ⟨before, early⟩ :=
      Load.Bench.scripted_advanceBefore surroundings now loop.schedule.due.wake scripted
    have reported : Observatory.Enters (· ∈ Load.methods) _ _ :=
      Reporter.Shift.enters_settle surroundings.wall now loop
        (s.bench.advanceBefore surroundings now loop.schedule.due.wake).observatory
    dsimp only
    generalize s.bench.advanceBefore surroundings now loop.schedule.due.wake = bench
      at before early reported ⊢
    generalize Reporter.settle surroundings.wall now loop bench.observatory = result
      at reported ⊢
    obtain ⟨loop, observatory⟩ := result
    obtain ⟨after, late⟩ :=
      Load.Bench.scripted_settle surroundings now (b := { bench with observatory }) before
    exact ⟨after, (early.trans reported).trans late⟩

/-- So it gains names of the script alone. -/
theorem grows_settle (surroundings : Load.Surroundings) (now : Duration)
    (scripted : s.bench.control.Scripted)
    : Grows (· ∈ Load.methods) s (s.settle surroundings now) := by
  obtain ⟨after, entered⟩ := enters_settle surroundings now scripted
  exact ⟨after, entered.gains⟩

end Growth

end Service

end CallWatch
