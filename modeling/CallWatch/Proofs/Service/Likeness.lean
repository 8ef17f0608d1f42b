import CallWatch.Proofs.Load.Likeness
import CallWatch.Proofs.Service.Control
import Mathlib.Data.List.InsertIdx

/-! What a service does not look at.
The numbers of the requests that wait tell who has the lock and no more, and what has been
observed is shown to clients and reported, but nothing depends on it. So two services that differ
in these alone go on alike, whatever requests come to them.
-/

namespace CallWatch

open Http (Request)
open Service (Exchange Pending Order)

namespace Service

-----------------------------------------------------------------------------------------
-- Services and exchanges
-----------------------------------------------------------------------------------------

/-- The services differ in what has been observed, in the number of the next order and in who has
the lock, at most; and both take the same calls.
-/
structure Like (s u : Service) : Prop where
  config : u.config = s.config
  reporter : u.reporter = s.reporter
  control : s.bench.control.Like u.bench.control
  taking : u.observatory.takes = s.observatory.takes

/-- A waiting request without its number. -/
def Pending.bare (p : Pending) : Pending :=
  { p with number := 0 }

/-- The request that waits after an exchange, if one does. -/
def Exchange.waiting? : Exchange → Option Pending
  | .answered _ | .brokenOff => none
  | .waiting p => some p

/-- What two services have made of a request: they are alike, the same request waits, and the same
records have been written.
-/
structure Alike (o p : Observatory) (one two : Exchange × Service) : Prop where
  like : one.2.Like two.2
  waiting : two.1.waiting?.map Pending.bare = one.1.waiting?.map Pending.bare
  inStep : o.InStep p one.2.observatory two.2.observatory

section Alike
variable {s u : Service} {wall : WallClock} {now : Duration}

/-- A call that is completed with one outcome leaves the services alike. -/
theorem Like.completeCall (like : Like s u) (wall : WallClock) (now startedAt : Duration)
    (r : Request) (outcome : Outcome)
    : Like (s.completeCall wall now startedAt r outcome)
          (u.completeCall wall now startedAt r outcome)
        ∧ s.observatory.InStep u.observatory
            (s.completeCall wall now startedAt r outcome).observatory
            (u.completeCall wall now startedAt r outcome).observatory := by
  simp only [Service.completeCall]
  split
  · have inStep := Observatory.inStep_complete like.taking (observedCall r) outcome
      (now - startedAt) (wall now)
    exact ⟨⟨like.config, like.reporter, like.control, inStep.taking like.taking⟩, inStep⟩
  · exact ⟨like, .refl⟩

/-- They complete the calls of the same requests. -/
theorem Like.completes (like : Like s u) (r : Request)
    : u.completes r = s.completes r := by
  simp only [Service.completes, like.taking]

/-- So does a request that is answered with one status. -/
theorem Like.conclude (like : Like s u) (startedAt : Duration) (r : Request)
    {first second : Http.Response} (same : second.status = first.status)
    : Alike s.observatory u.observatory (s.conclude wall now startedAt r first)
        (u.conclude wall now startedAt r second) := by
  have told : outcome second = outcome first := congrArg Outcome.ofStatus same
  obtain ⟨after, inStep⟩ := like.completeCall wall now startedAt r (outcome first)
  simp only [Service.conclude, told, like.completes]
  generalize s.completeCall wall now startedAt r (outcome first) = one at after inStep ⊢
  generalize u.completeCall wall now startedAt r (outcome first) = two at after inStep ⊢
  refine ⟨after, ?_, inStep⟩
  split <;> rfl

theorem Like.withControl (like : Like s u) {c d : Load.Control} (controls : c.Like d)
    : Like (s.withControl c) (u.withControl d) :=
  ⟨like.config, like.reporter, controls, like.taking⟩

/-- So does an order that goes on, whatever its number. -/
theorem Like.proceed (like : Like s u) {p q : Pending} (same : q.bare = p.bare)
    : Alike s.observatory u.observatory (s.proceed wall now p) (u.proceed wall now q) := by
  obtain ⟨i, request, startedAt, order, task⟩ := p
  obtain ⟨j, _, _, _, _⟩ := q
  cases same
  obtain ⟨progress, controls⟩ := like.control.run i j 4 task
  simp only [Service.proceed]
  generalize Load.Task.run i 4 task s.bench.control = first at progress controls ⊢
  generalize Load.Task.run j 4 task u.bench.control = second at progress controls ⊢
  obtain ⟨progress, c⟩ := first
  obtain ⟨_, d⟩ := second
  cases progress
  have after := like.withControl controls
  cases progress with
  | answer value => exact after.conclude startedAt request rfl
  | stage task => exact ⟨after, rfl, .refl⟩

/-- The handlers give the same order, or answers of the same status; by cases on the route. -/
theorem handle_like (s u : Service) (instant : Time.Instant) (r : Request)
    : (∃ order, s.handle instant r = .order order ∧ u.handle instant r = .order order)
      ∨ ∃ first second,
          s.handle instant r = .answer first
          ∧ u.handle instant r = .answer second
          ∧ second.status = first.status := by
  simp only [handle]
  split
  · exact .inr ⟨_, _, rfl, rfl, rfl⟩
  · next route _ =>
    split
    · exact .inr ⟨_, _, rfl, rfl, rfl⟩
    · cases route with
      | ping => exact .inr ⟨_, _, rfl, rfl, rfl⟩
      | product segment => exact .inr ⟨productResponse segment, _, rfl, rfl, rfl⟩
      | loadStatus | metrics =>
          refine .inr ⟨_, _, rfl, rfl, ?_⟩
          simp only [Http.Response.json]
      | metricsStream => exact .inr ⟨eventsResponse, _, rfl, rfl, rfl⟩
      | loadStop => exact .inl ⟨_, rfl, rfl⟩
      | loadStart =>
          cases handled : handleStart r with
          | answer response => exact .inr ⟨_, _, rfl, rfl, rfl⟩
          | order order => exact .inl ⟨_, rfl, rfl⟩

/-- Services that are alike make the same of a request that arrives. -/
theorem Like.accept (like : Like s u) (r : Request)
    : Alike s.observatory u.observatory (s.accept wall now r) (u.accept wall now r) := by
  simp only [Service.accept]
  split
  · exact ⟨like, rfl, .refl⟩
  · rcases handle_like s u (wall now) r with
      ⟨order, first, second⟩ | ⟨first, second, one, two, same⟩
    · simp only [first, second]
      exact Like.proceed (s := { s with nextOrder := s.nextOrder + 1 })
        (u := { u with nextOrder := u.nextOrder + 1 })
        ⟨like.config, like.reporter, like.control, like.taking⟩ rfl
    · simp only [one, two]
      exact like.conclude now r same

/-- They make the same of a request that is given up. -/
theorem Like.abandon (like : Like s u) (wall : WallClock) (now : Duration) {p q : Pending}
    (same : q.bare = p.bare)
    : Like (s.abandon wall now p) (u.abandon wall now q)
        ∧ s.observatory.InStep u.observatory (s.abandon wall now p).observatory
            (u.abandon wall now q).observatory := by
  obtain ⟨i, request, startedAt, order, task⟩ := p
  obtain ⟨j, _, _, _, _⟩ := q
  cases same
  exact (like.withControl (like.control.drop task)).completeCall wall now startedAt request _

/-- They do the same of what is due. -/
theorem Like.settle (surroundings : Load.Surroundings) (now : Duration) (like : Like s u)
    : Like (s.settle surroundings now) (u.settle surroundings now)
        ∧ s.observatory.InStep u.observatory (s.settle surroundings now).observatory
            (u.settle surroundings now).observatory := by
  simp only [Service.settle, like.reporter]
  cases s.reporter with
  | none =>
      obtain ⟨controls, inStep⟩ :=
        Load.Bench.settle_like surroundings now like.control like.taking
      exact ⟨⟨like.config, rfl, controls, inStep.taking like.taking⟩, inStep⟩
  | some loop =>
      obtain ⟨before, early⟩ :=
        Load.Bench.advanceBefore_like surroundings now loop.schedule.due.wake like.control
          like.taking
      have takesEarly := early.taking like.taking
      dsimp only
      generalize s.bench.advanceBefore surroundings now loop.schedule.due.wake = first
        at before early takesEarly ⊢
      generalize u.bench.advanceBefore surroundings now loop.schedule.due.wake = second
        at before early takesEarly ⊢
      obtain ⟨silent, takes, same⟩ :=
        Reporter.Shift.settle_silent surroundings.wall now loop first.observatory
      obtain ⟨silentToo, takesToo, -⟩ :=
        Reporter.Shift.settle_silent surroundings.wall now loop second.observatory
      have loops := same second.observatory
      generalize Reporter.settle surroundings.wall now loop first.observatory = one
        at silent takes loops ⊢
      generalize Reporter.settle surroundings.wall now loop second.observatory = two
        at silentToo takesToo loops ⊢
      have reported := Observatory.InStep.of_silent takes takesToo silent silentToo
      obtain ⟨controls, late⟩ := Load.Bench.settle_like surroundings now
        (b := { first with observatory := one.2 }) (d := { second with observatory := two.2 })
        before (reported.taking takesEarly)
      have inStep := (early.trans reported).trans late
      exact ⟨⟨like.config, congrArg some loops, controls, inStep.taking like.taking⟩, inStep⟩

end Alike

end Service

-----------------------------------------------------------------------------------------
-- Traffic
-----------------------------------------------------------------------------------------

namespace Traffic

/-- The services are alike, and the same requests wait. -/
structure Like (t u : Traffic) : Prop where
  service : t.service.Like u.service
  waiting : u.waiting.map Pending.bare = t.waiting.map Pending.bare

/-- What an event or a history has made of two services: they are alike, and have written the same
records.
-/
def GoOn (o p : Observatory) (t u : Traffic) : Prop :=
  t.Like u ∧ o.InStep p t.service.observatory u.service.observatory

section Events
variable {t u : Traffic} {o p : Observatory} {waiting others : List Pending}

theorem joined_eq (waiting : List Pending) (result : Exchange × Service)
    : joined waiting result = ⟨result.2, waiting ++ result.1.waiting?.toList⟩ := by
  obtain ⟨exchange, s⟩ := result
  cases exchange with
  | answered | brokenOff => exact congrArg _ (List.append_nil waiting).symm
  | waiting => rfl

theorem goOn_joined {one two : Exchange × Service} (alike : Service.Alike o p one two)
    (same : others.map Pending.bare = waiting.map Pending.bare)
    : GoOn o p (joined waiting one) (joined others two) := by
  rw [joined_eq, joined_eq]
  refine ⟨⟨alike.like, ?_⟩, alike.inStep⟩
  have joins := congrArg Option.toList alike.waiting
  simp only [Option.toList_map] at joins
  simp only [List.map_append, same, joins]

/-- Where a request waits, the same waits. -/
theorem Like.found (like : t.Like u) (index : Nat)
    : u.waiting[index]?.map Pending.bare = t.waiting[index]?.map Pending.bare := by
  simpa only [List.getElem?_map] using congrArg (fun waiting => waiting[index]?) like.waiting

theorem Like.erased (like : t.Like u) (index : Nat)
    : (u.waiting.eraseIdx index).map Pending.bare
      = (t.waiting.eraseIdx index).map Pending.bare := by
  simpa only [List.eraseIdx_map] using congrArg (fun waiting => waiting.eraseIdx index) like.waiting

/-- Every event leaves services alike that are alike, by cases on it. -/
theorem Like.step (surroundings : Load.Surroundings) (like : t.Like u) (now : Duration)
    (event : TrafficEvent)
    : GoOn t.service.observatory u.service.observatory (t.step surroundings now event)
        (u.step surroundings now event) := by
  cases event with
  | arrive r => exact goOn_joined (like.service.accept r) like.waiting
  | resume index =>
      have found := like.found index
      simp only [Traffic.step]
      cases first : t.waiting[index]? with
      | none =>
          rw [first, Option.map_none, Option.map_eq_none_iff] at found
          simp only [found]
          exact ⟨like, .refl⟩
      | some p =>
          rw [first, Option.map_some, Option.map_eq_some_iff] at found
          obtain ⟨q, second, same⟩ := found
          simp only [second]
          exact goOn_joined (like.service.proceed same) (like.erased index)
  | abandon index =>
      have found := like.found index
      simp only [Traffic.step]
      cases first : t.waiting[index]? with
      | none =>
          rw [first, Option.map_none, Option.map_eq_none_iff] at found
          simp only [found]
          exact ⟨like, .refl⟩
      | some p =>
          rw [first, Option.map_some, Option.map_eq_some_iff] at found
          obtain ⟨q, second, same⟩ := found
          simp only [second]
          obtain ⟨after, inStep⟩ := like.service.abandon surroundings.wall now same
          generalize t.service.abandon surroundings.wall now p = one at after inStep ⊢
          generalize u.service.abandon surroundings.wall now q = two at after inStep ⊢
          exact ⟨⟨after, like.erased index⟩, inStep⟩
  | settle =>
      obtain ⟨after, inStep⟩ := like.service.settle surroundings now
      exact ⟨⟨after, like.waiting⟩, inStep⟩
  | startReporter =>
      have period : u.service.period = t.service.period := by
        simp only [Service.period, like.service.config]
      refine
        ⟨⟨⟨like.service.config, ?_, like.service.control, like.service.taking⟩, like.waiting⟩,
          .refl⟩
      simp only [Traffic.step, Service.startReporter, period]
  | stopReporter =>
      refine
        ⟨⟨⟨like.service.config, ?_, like.service.control, like.service.taking⟩, like.waiting⟩,
          .refl⟩
      simp only [Traffic.step, Service.stopReporter, like.service.reporter]

/-- So does a history, by induction on it. -/
theorem Like.run (surroundings : Load.Surroundings) (like : t.Like u) (history : History)
    : GoOn t.service.observatory u.service.observatory (t.run surroundings history)
        (u.run surroundings history) := by
  induction history generalizing t u with
  | nil => exact ⟨like, .refl⟩
  | cons entry rest ih =>
      obtain ⟨first, inStep⟩ := like.step surroundings entry.1 entry.2
      obtain ⟨later, inStepLater⟩ := ih first
      exact ⟨later, inStep.trans inStepLater⟩

end Events

end Traffic

end CallWatch
