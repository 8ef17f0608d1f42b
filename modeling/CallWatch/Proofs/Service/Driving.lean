import CallWatch.Proofs.Load.Likeness
import CallWatch.Proofs.Load.Ownership
import CallWatch.Proofs.Service.Control
import CallWatch.Startup.Launch

/-! A service drives a floor.
Whatever happens to a service, there is a floor on which requests to start and to stop are made
just as they come to the service, and whose load control is that of the service. So what moves
keep on a floor holds of load control in every service, unless a stop is given up where it waits
for a run that is under way.
-/

namespace CallWatch

open Http (Request)
open Load (Floor Task)
open Service (Exchange Pending Order)

namespace Service
variable {wall : WallClock} {now : Duration} {s : Service}

theorem nextOrder_completeCall (wall : WallClock) (now startedAt : Duration) (r : Request)
    (outcome : Outcome) (s : Service)
    : (s.completeCall wall now startedAt r outcome).nextOrder = s.nextOrder := by
  unfold completeCall
  split <;> rfl

/-- No order is given while one goes on. -/
theorem nextOrder_proceed (wall : WallClock) (now : Duration) (p : Pending) (s : Service)
    : (s.proceed wall now p).2.nextOrder = s.nextOrder := by
  have goes := proceeds wall now p s
  generalize s.proceed wall now p = result at goes ⊢
  cases goes with
  | answer => exact nextOrder_completeCall ..
  | wait => rfl

/-- What is taken does not change while requests go on. -/
theorem takes_completeCall (wall : WallClock) (now startedAt : Duration) (r : Request)
    (outcome : Outcome) (s : Service)
    : (s.completeCall wall now startedAt r outcome).observatory.takes = s.observatory.takes := by
  unfold completeCall
  split
  · exact Observatory.takes_complete
  · rfl

theorem takes_proceed (wall : WallClock) (now : Duration) (p : Pending) (s : Service)
    : (s.proceed wall now p).2.observatory.takes = s.observatory.takes := by
  have goes := proceeds wall now p s
  generalize s.proceed wall now p = result at goes ⊢
  cases goes with
  | answer => exact takes_completeCall ..
  | wait => rfl

/-- The errand of an order. -/
def Order.errand : Order → Load.Errand
  | .start _ profile => .start profile
  | .stop => .stop

theorem Order.task_errand (order : Order)
    : order.errand.task = order.task := by
  cases order <;> rfl

end Service

namespace Traffic

/-- A service drives a floor by harmless moves: load control is the same on both, and so is what
is taken; the orders that have been given are the requests on the floor, and those that wait are
open there.
-/
structure Drives (surroundings : Load.Surroundings) (o : Observatory) (t : Traffic) (f : Floor)
    : Prop where
  driven : f.Driven surroundings Floor.Harmless o
  bench : t.service.bench.Same f.bench
  numbered : f.requests.length = t.service.nextOrder
  standing : ∀ p ∈ t.waiting, f.requests[p.number]? = some (.open p.task)
  distinct : (t.waiting.map Pending.number).Nodup

/-- An event gives up no stop that waits for a run at work. -/
def Spares (t : Traffic) : TrafficEvent → Prop
  | .abandon index =>
    ∀ (p : Pending) (wasUp : Bool) (run : Nat),
      t.waiting[index]? = some p → p.task = .stopJoining wasUp run
      → ¬ t.service.bench.control.AtWork run
  | _ => True

/-- No event of a history does. -/
def SparesAll (surroundings : Load.Surroundings) : Traffic → History → Prop
  | _, [] => True
  | t, (now, event) :: rest =>
    t.Spares event ∧ SparesAll surroundings (t.step surroundings now event) rest

section Events
variable {surroundings : Load.Surroundings} {o : Observatory} {t : Traffic} {f : Floor}
  {s : Service} {others waiting : List Pending} {p : Pending}

theorem Drives.control (drives : Drives surroundings o t f)
    : f.control = t.service.bench.control :=
  drives.bench.control

/-- The floor is as moves leave it, so the invariant holds on it, and it is steady. -/
theorem Drives.invariant (drives : Drives surroundings o t f)
    : f.Invariant ∧ f.Steady := by
  have free (g : Floor) (move : Load.Move) (kept : move.drops = false) : g.Harmless move :=
    Floor.Undropped.harmless kept
  obtain ⟨reached, steady⟩ := drives.driven.reaches free
  exact ⟨(Floor.opening_invariant o).reaches reached, steady⟩

/-- The order in which requests wait does not matter. -/
theorem Drives.perm (drives : Drives surroundings o ⟨s, waiting⟩ f) (perm : waiting.Perm others)
    : Drives surroundings o ⟨s, others⟩ f :=
  ⟨drives.driven, drives.bench, drives.numbered,
    fun p member => drives.standing p (perm.mem_iff.mpr member),
    (perm.map Pending.number).nodup_iff.mp drives.distinct⟩

/-- Any request that waits can be taken first. -/
theorem Drives.first (drives : Drives surroundings o t f) {index : Nat}
    (found : t.waiting[index]? = some p)
    : Drives surroundings o ⟨t.service, p :: t.waiting.eraseIdx index⟩ f := by
  obtain ⟨inside, rfl⟩ := List.getElem?_eq_some_iff.mp found
  have perm : t.waiting.Perm (t.waiting[index] :: t.waiting.eraseIdx index) :=
    (List.getElem_cons_eraseIdx_perm inside).symm
  exact drives.perm perm

/-- The requests behind the first stand as before, whatever becomes of that. -/
theorem Drives.behind (drives : Drives surroundings o ⟨s, p :: others⟩ f)
    (standing : Load.Standing)
    : ∀ q ∈ others, (f.requests.set p.number standing)[q.number]? = some (.open q.task) := by
  intro q member
  have apart : p.number ≠ q.number := fun same =>
    (List.nodup_cons.mp drives.distinct).1 (same ▸ List.mem_map_of_mem member)
  rw [List.getElem?_set_ne apart]
  exact drives.standing q (.tail _ member)

/-- An order that goes on is a request that moves on the floor. -/
theorem Drives.proceed (drives : Drives surroundings o ⟨s, p :: others⟩ f) (now : Duration)
    : ∃ g, Drives surroundings o (joined others (s.proceed surroundings.wall now p)) g := by
  have standing : f.requests[p.number]? = some (.open p.task) := drives.standing p (.head _)
  have control : f.control = s.bench.control := drives.control
  have inside : p.number < f.requests.length := (List.getElem?_eq_some_iff.mp standing).1
  obtain ⟨fresh, distinct⟩ := List.nodup_cons.mp drives.distinct
  have moved := drives.driven.proceed standing
  have after := Service.control_proceed surroundings.wall now p s
  have numbered := Service.nextOrder_proceed surroundings.wall now p s
  have taking := Service.takes_proceed surroundings.wall now p s
  have stays (later : Pending) (waits : (s.proceed surroundings.wall now p).1 = .waiting later) :=
    Service.stage_of_proceed waits
  rw [← control] at after stays
  generalize p.task.run p.number 4 f.control = result at moved after stays
  generalize s.proceed surroundings.wall now p = exchanged at after numbered taking stays ⊢
  obtain ⟨exchange, next⟩ := exchanged
  have bench : next.bench.Same (f.withControl result.2).bench :=
    ⟨after.symm, drives.bench.taking.trans taking.symm⟩
  have length : (f.requests.set p.number result.1.standing).length = next.nextOrder :=
    List.length_set.trans (drives.numbered.trans numbered.symm)
  cases exchange with
  | answered | brokenOff => exact ⟨_, moved, bench, length, drives.behind _, distinct⟩
  | waiting later =>
      obtain ⟨stage, number⟩ := stays later rfl
      refine ⟨_, moved, bench, length, List.forall_mem_append.mpr ⟨drives.behind _, ?_⟩, ?_⟩
      · refine List.forall_mem_singleton.mpr ?_
        change (f.requests.set p.number _)[later.number]? = _
        rw [number, stage]
        exact List.getElem?_set_self inside
      · have same : (others ++ [later]).map Pending.number
            = others.map Pending.number ++ [p.number] := by
          simp [number]
        exact same ▸ List.perm_append_singleton _ _ |>.nodup_iff.mpr drives.distinct

/-- A request that is given up is dropped on the floor, if no run is detached by that. -/
theorem Drives.abandon (drives : Drives surroundings o ⟨s, p :: others⟩ f) (now : Duration)
    (spares
      : ∀ wasUp run, p.task = .stopJoining wasUp run → ¬ s.bench.control.AtWork run)
    : ∃ g, Drives surroundings o ⟨s.abandon surroundings.wall now p, others⟩ g := by
  have standing : f.requests[p.number]? = some (.open p.task) := drives.standing p (.head _)
  have control : f.control = s.bench.control := drives.control
  have harmless : f.Harmless (.drop p.number) := by
    rintro _ run wasUp ⟨rfl⟩ waits
    rw [control]
    exact spares wasUp run
      (Load.Standing.open.inj (Option.some.inj (standing.symm.trans waits)))
  have after := Service.control_abandon surroundings.wall now p s
  rw [← control] at after
  have numbered := Service.nextOrder_completeCall surroundings.wall now p.startedAt p.request
    (outcome (Ending.dropped : Ending Http.Response))
    (s.withControl (p.task.drop s.bench.control))
  have taking := Service.takes_completeCall surroundings.wall now p.startedAt p.request
    (outcome (Ending.dropped : Ending Http.Response))
    (s.withControl (p.task.drop s.bench.control))
  exact ⟨_, drives.driven.drop standing harmless,
    ⟨after.symm, drives.bench.taking.trans taking.symm⟩,
    List.length_set.trans (drives.numbered.trans numbered.symm), drives.behind _,
    (List.nodup_cons.mp drives.distinct).2⟩

/-- A request that arrives, and is an order, is made on the floor. -/
theorem Drives.arrive (drives : Drives surroundings o t f) (now : Duration) (r : Request)
    : ∃ g, Drives surroundings o (t.step surroundings now (.arrive r)) g := by
  have taken := Service.accepts surroundings.wall now r t.service
  simp only [step]
  generalize t.service.accept surroundings.wall now r = result at taken ⊢
  cases taken with
  | permission => exact ⟨f, drives⟩
  | @answer response =>
      have control := Service.control_conclude surroundings.wall now now r response t.service
      have numbered := Service.nextOrder_completeCall surroundings.wall now now r
        (outcome response) t.service
      have taking := Service.takes_completeCall surroundings.wall now now r
        (outcome response) t.service
      rw [joined_conclude]
      exact ⟨f, drives.driven,
        ⟨drives.control.trans control.symm, drives.bench.taking.trans taking.symm⟩,
        drives.numbered.trans numbered.symm, drives.standing, drives.distinct⟩
  | @order order =>
      let asked : Floor := { f with requests := f.requests ++ [.open order.errand.task] }
      let p : Pending := ⟨t.service.nextOrder, r, now, order, order.task⟩
      have older : ∀ q ∈ t.waiting, q.number < f.requests.length := fun q member =>
        (List.getElem?_eq_some_iff.mp (drives.standing q member)).1
      have asks : Drives surroundings o
          ⟨{ t.service with nextOrder := t.service.nextOrder + 1 }, p :: t.waiting⟩ asked := by
        refine ⟨drives.driven.ask order.errand, drives.bench, ?_, ?_, ?_⟩
        · simp [asked, drives.numbered]
        · refine List.forall_mem_cons.mpr ⟨?_, fun q member => ?_⟩
          · simp [asked, p, ← drives.numbered, order.task_errand]
          · exact (List.getElem?_append_left (older q member)).trans (drives.standing q member)
        · refine List.nodup_cons.mpr ⟨fun member => ?_, drives.distinct⟩
          obtain ⟨q, waits, same⟩ := List.mem_map.mp member
          have := older q waits
          have : q.number = t.service.nextOrder := same
          have := drives.numbered
          omega
      exact asks.proceed now

/-- Every event that spares runs is a history of what can happen on a floor; by cases on it. -/
theorem Drives.step (drives : Drives surroundings o t f) (now : Duration) (event : TrafficEvent)
    (spares : t.Spares event)
    : ∃ g, Drives surroundings o (t.step surroundings now event) g := by
  cases event with
  | arrive r => exact drives.arrive now r
  | resume index =>
      simp only [Traffic.step]
      split
      · next p found => exact (drives.first found).proceed now
      · exact ⟨f, drives⟩
  | abandon index =>
      simp only [Traffic.step]
      split
      · next p found =>
        exact (drives.first found).abandon now fun wasUp run => spares p wasUp run found
      · exact ⟨f, drives⟩
  | settle =>
      simp only [Traffic.step, Service.settle]
      split
      · exact ⟨_, drives.driven.settle now, drives.bench.settle surroundings now,
          drives.numbered, drives.standing, drives.distinct⟩
      · next loop _ =>
        have early := drives.bench.advanceBefore surroundings now loop.schedule.due.wake
        obtain ⟨-, taking, -⟩ := Reporter.Shift.settle_silent surroundings.wall now loop
          (t.service.bench.advanceBefore surroundings now loop.schedule.due.wake).observatory
        exact ⟨_, (drives.driven.advance now loop.schedule.due.wake).settle now,
          (early.withObservatory taking).settle surroundings now,
          drives.numbered, drives.standing, drives.distinct⟩
  | startReporter | stopReporter =>
      exact ⟨f, drives.driven, drives.bench, drives.numbered, drives.standing, drives.distinct⟩

/-- So is every history that spares runs, by induction on it. -/
theorem Drives.run (drives : Drives surroundings o t f) (history : History)
    (spares : t.SparesAll surroundings history)
    : ∃ g, Drives surroundings o (t.run surroundings history) g := by
  induction history generalizing t f with
  | nil => exact ⟨f, drives⟩
  | cons entry rest ih =>
      obtain ⟨first, later⟩ := spares
      obtain ⟨middle, after⟩ := drives.step entry.1 entry.2 first
      exact ih after later

end Events

-----------------------------------------------------------------------------------------
-- Openings
-----------------------------------------------------------------------------------------

/-- A service to which nothing has happened: a new one, or that of a process at its start. -/
inductive Opens : Service → Prop
  | new (config : Config) : Opens (.start config)
  | launched (launch : Startup.Launch) (now : Duration) : Opens (launch.service now)

/-- Such a service drives a floor. -/
theorem drives_of_opens (surroundings : Load.Surroundings) {s : Service} (opens : Opens s)
    : ∃ f, Drives surroundings s.observatory ⟨s, []⟩ f := by
  have empty (o : Observatory) : (Floor.opening o).Driven surroundings Floor.Harmless o :=
    .opening
  cases opens with
  | new config => exact ⟨_, empty _, ⟨rfl, rfl⟩, rfl, nofun, List.nodup_nil⟩
  | launched launch now =>
      simp only [Startup.Launch.service]
      split
      · exact ⟨_, empty _, ⟨rfl, rfl⟩, rfl, nofun, List.nodup_nil⟩
      · next profile _ =>
        have asked := (empty (Service.start launch.config).observatory).ask (.start profile)
        have standing : [Load.Standing.open (Load.Errand.start profile).task][0]?
            = some (.open (.startQueued profile)) := rfl
        exact ⟨_, asked.proceed standing, ⟨rfl, rfl⟩, rfl, nofun, List.nodup_nil⟩

end Traffic

end CallWatch
