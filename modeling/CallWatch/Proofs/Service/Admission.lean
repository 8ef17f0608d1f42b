import CallWatch.Proofs.Config.Override
import CallWatch.Proofs.Service.Classification
import CallWatch.Proofs.Service.Control
import CallWatch.Startup.Launch

/-! Which load is let in.
Load comes in by two doors: with the configuration of the process and with requests. Both let
in the same profiles, and no run is ever started with another.
-/

namespace CallWatch

open Service (Exchange Pending LoadRequest)

-----------------------------------------------------------------------------------------
-- Bounds
-----------------------------------------------------------------------------------------

/-- The profiles within the bounds. -/
structure LoadProfile.Admitted (p : LoadProfile) : Prop where
  workers : 1 ≤ p.workers ∧ p.workers ≤ 500
  duration : Duration.ofSeconds 1 ≤ p.duration ∧ p.duration ≤ Duration.ofSeconds 300
  errorPct : p.errorPct ≤ 100

/-- The request to start the load of a configuration. -/
def Config.loadRequest (c : Config) : LoadRequest :=
  ⟨c.loadWorkers, c.loadDurationSecs, c.loadErrorPct⟩

namespace Service.LoadRequest
variable {q : LoadRequest} {profile : LoadProfile}

/-- The profile that a request asks for, within the bounds or not. -/
def asked (q : LoadRequest) : LoadProfile :=
  ⟨q.workers, Duration.ofSeconds q.seconds, q.errorPct⟩

/-- What is asked for is within the bounds if its numbers are. -/
theorem admitted_asked_iff
    : q.asked.Admitted
      ↔ (1 ≤ q.workers ∧ q.workers ≤ 500)
        ∧ (1 ≤ q.seconds ∧ q.seconds ≤ 300)
        ∧ q.errorPct ≤ 100 := by
  have whole (a b : Nat) : Duration.ofSeconds a ≤ Duration.ofSeconds b ↔ a ≤ b := by
    simp only [Duration.le_iff, Duration.ofSeconds]
    omega
  constructor
  · rintro ⟨workers, ⟨least, most⟩, errorPct⟩
    exact ⟨workers, ⟨(whole _ _).mp least, (whole _ _).mp most⟩, errorPct⟩
  · rintro ⟨workers, ⟨least, most⟩, errorPct⟩
    exact ⟨workers, ⟨(whole _ _).mpr least, (whole _ _).mpr most⟩, errorPct⟩

/-- A request gets past the checks if and only if it asks for a profile within the bounds. -/
theorem profile_eq_ok_iff
    : q.profile = .ok profile ↔ profile = q.asked ∧ q.asked.Admitted := by
  rw [admitted_asked_iff]
  unfold LoadRequest.profile LoadProfile.mostWorkers LoadProfile.mostSeconds
    LoadProfile.mostErrorPct
  split
  · next outside => exact ⟨nofun, fun ⟨_, workers, _⟩ => by omega⟩
  · split
    · next outside => exact ⟨nofun, fun ⟨_, _, seconds, _⟩ => by omega⟩
    · split
      · next outside => exact ⟨nofun, fun ⟨_, _, _, errorPct⟩ => by omega⟩
      · rw [Except.ok.injEq, eq_comm]
        exact ⟨fun same => ⟨same, by omega⟩, And.left⟩

theorem admitted_of_profile (bounds : q.profile = .ok profile)
    : profile.Admitted := by
  obtain ⟨rfl, admitted⟩ := profile_eq_ok_iff.mp bounds
  exact admitted

end Service.LoadRequest

/-- The two doors let in the same: a configuration with some load and an address keeps the rules
if and only if the request to start its load gets past the checks.
-/
theorem Config.validate_iff_profile {c : Config} (loads : 1 ≤ c.loadWorkers)
    (listen : Text.isAllBlank c.listen = false)
    : c.validate = .ok () ↔ c.loadRequest.profile = .ok c.loadRequest.asked := by
  rw [validate_eq_ok_iff, LoadRequest.profile_eq_ok_iff, LoadRequest.admitted_asked_iff]
  constructor
  · rintro ⟨errorPct, workers, duration, -⟩
    exact ⟨rfl, ⟨loads, workers⟩, duration, errorPct⟩
  · rintro ⟨-, ⟨-, workers⟩, duration, errorPct⟩
    exact ⟨errorPct, workers, duration, listen⟩

-----------------------------------------------------------------------------------------
-- The doors
-----------------------------------------------------------------------------------------

namespace Startup

/-- A process that can start has loaded its configuration. -/
theorem load_of_prepare {env : Environment} {files : Config.Files} {launch : Launch}
    {events : List Log.Event} (prepared : prepare env files = (some launch, events))
    : (Config.load env files).1 = .ok launch.config := by
  unfold prepare at prepared
  generalize Config.load env files = loaded at prepared ⊢
  obtain ⟨result, warnings⟩ := loaded
  cases result with
  | error => cases prepared
  | ok config =>
      dsimp only at prepared ⊢
      split at prepared
      · cases prepared
      · cases prepared
        rfl

/-- Its configuration keeps the rules: they have been checked after the override. -/
theorem valid_of_prepare {env : Environment} {files : Config.Files} {launch : Launch}
    {events : List Log.Event} (prepared : prepare env files = (some launch, events))
    : launch.config.validate = .ok () := by
  have loaded := load_of_prepare prepared
  unfold Config.load at loaded
  split at loaded
  · cases loaded
  · obtain ⟨same, valid⟩ := Config.checked_eq_ok_iff.mp loaded
    exact same ▸ valid

/-- The load that it starts with is what the request of its configuration asks for, and within
the bounds.
-/
theorem profile_of_prepare {env : Environment} {files : Config.Files} {launch : Launch}
    {events : List Log.Event} {profile : LoadProfile}
    (prepared : prepare env files = (some launch, events)) (loads : launch.profile? = some profile)
    : launch.config.loadRequest.profile = .ok profile := by
  have valid := valid_of_prepare prepared
  have listen := (Config.validate_eq_ok_iff.mp valid).2.2.2
  unfold Launch.profile? at loads
  split at loads
  · cases loads
  · next nonzero =>
    cases loads
    exact (Config.validate_iff_profile (Nat.one_le_iff_ne_zero.mpr nonzero) listen).mp valid

end Startup

namespace Service

/-- The handler gives an order to start only for a request that gets past the checks. -/
theorem profile_of_order {s : Service} {instant : Time.Instant} {r : Http.Request}
    {q : LoadRequest} {profile : LoadProfile}
    (handled : s.handle instant r = .order (.start q profile))
    : q.profile = .ok profile := by
  unfold handle at handled
  split at handled
  · cases handled
  · next route _ =>
    split at handled
    · cases handled
    · cases route with
      | ping | product | loadStop | loadStatus | metrics | metricsStream => cases handled
      | loadStart =>
          simp only [handleStart] at handled
          split at handled
          · cases handled
          · split at handled
            · cases handled
            · next bounds =>
              cases handled
              exact bounds

end Service

-----------------------------------------------------------------------------------------
-- Runs
-----------------------------------------------------------------------------------------

namespace Traffic

/-- All runs, and all starts that wait, are within the bounds. -/
structure Admitted (t : Traffic) : Prop where
  runs : t.service.bench.control.Runs LoadProfile.Admitted
  asks : ∀ p ∈ t.waiting, p.task.Asks LoadProfile.Admitted

section Events
variable (surroundings : Load.Surroundings) {t : Traffic} {p : Pending}

/-- An order that goes on begins no run but one that it asks for. -/
theorem Admitted.proceed {s : Service} {waiting : List Pending} (now : Duration)
    (runs : s.bench.control.Runs LoadProfile.Admitted)
    (others : ∀ p ∈ waiting, p.task.Asks LoadProfile.Admitted)
    (asks : p.task.Asks LoadProfile.Admitted)
    : (joined waiting (s.proceed surroundings.wall now p)).Admitted := by
  obtain ⟨after, later⟩ := runs.run asks p.number 4
  rw [← Service.control_proceed surroundings.wall now] at after
  have waits (next : Pending)
      (joins : (s.proceed surroundings.wall now p).1 = .waiting next)
      : next.task.Asks LoadProfile.Admitted :=
    later next.task (Service.stage_of_proceed joins).1
  generalize s.proceed surroundings.wall now p = result at after waits ⊢
  obtain ⟨exchange, service⟩ := result
  cases exchange with
  | answered | brokenOff => exact ⟨after, others⟩
  | waiting next =>
      exact ⟨after, List.forall_mem_append.mpr
        ⟨others, List.forall_mem_singleton.mpr (waits next rfl)⟩⟩

/-- A request that arrives begins no run but one within the bounds. -/
theorem Admitted.arrive (admitted : t.Admitted) (now : Duration) (r : Http.Request)
    : (t.step surroundings now (.arrive r)).Admitted := by
  have taken := Service.accepts surroundings.wall now r t.service
  simp only [step]
  generalize t.service.accept surroundings.wall now r = result at taken ⊢
  cases taken with
  | permission => exact admitted
  | @answer response =>
      have same := Service.control_conclude surroundings.wall now now r response t.service
      rw [joined_conclude]
      exact ⟨same.symm ▸ admitted.runs, admitted.asks⟩
  | @order order _ handled =>
      have asks : order.task.Asks LoadProfile.Admitted := by
        cases order with
        | start q profile =>
            exact LoadRequest.admitted_of_profile (Service.profile_of_order handled)
        | stop => trivial
      exact .proceed surroundings (s := { t.service with nextOrder := t.service.nextOrder + 1 })
        now admitted.runs admitted.asks asks

/-- So does every event, by cases on it. -/
theorem Admitted.step (admitted : t.Admitted) (now : Duration) (event : TrafficEvent)
    : (t.step surroundings now event).Admitted := by
  have others (index : Nat)
      : ∀ p ∈ t.waiting.eraseIdx index, p.task.Asks LoadProfile.Admitted :=
    fun p member => admitted.asks p (List.mem_of_mem_eraseIdx member)
  cases event with
  | arrive r => exact admitted.arrive surroundings now r
  | resume index =>
      simp only [Traffic.step]
      split
      · next p found =>
        exact .proceed surroundings now admitted.runs (others index)
          (admitted.asks p (List.mem_of_getElem? found))
      · exact admitted
  | abandon index =>
      simp only [Traffic.step]
      split
      · next p _ =>
        refine ⟨?_, others index⟩
        rw [Service.control_abandon]
        exact admitted.runs.drop p.task
      · exact admitted
  | settle =>
      refine ⟨?_, admitted.asks⟩
      exact Service.settle_keeps (fun b => b.control.Runs LoadProfile.Admitted) surroundings now
        (fun _ due runs => Load.Bench.runs_advance surroundings now runs due)
        (fun _ runs => Load.Bench.runs_settle surroundings now runs)
        (fun _ _ runs => runs) admitted.runs
  | startReporter | stopReporter => exact ⟨admitted.runs, admitted.asks⟩

/-- So does a history, by induction on it. -/
theorem Admitted.run (admitted : t.Admitted) (history : History)
    : (t.run surroundings history).Admitted := by
  induction history generalizing t with
  | nil => exact admitted
  | cons entry rest ih => exact ih (admitted.step surroundings entry.1 entry.2)

end Events

/-- A process starts with no run but the one of its configuration. -/
theorem admitted_launch {launch : Startup.Launch} (now : Duration)
    (bounds : ∀ profile, launch.profile? = some profile → profile.Admitted)
    : Admitted ⟨launch.service now, []⟩ := by
  refine ⟨?_, nofun⟩
  unfold Startup.Launch.service
  split
  · exact nofun
  · next profile loads =>
    have idle : Load.Control.idle.Runs LoadProfile.Admitted := nofun
    have asks : (Load.Task.startQueued profile).Asks LoadProfile.Admitted := bounds profile loads
    exact (idle.run asks _ _).1

end Traffic

/-- How load is let in.

- `doors`: a configuration with some load and an address keeps the rules if and only if the
  request to start its load gets past the checks;
- `handler`: the handler of starts gives an order exactly then, whatever the state, and the order
  is for the profile that was asked for;
- `boot`: the load that a process starts with is what the request of its configuration asks for;
- `runs`: whatever happens to a process that can start, by whatever requests, every run that has
  begun and not ended is within the bounds. A run that begins is there after the event that
  begins it, so this is every run that is ever started.
-/
structure AdmissionLaw : Prop where
  doors :
    ∀ c : Config,
      1 ≤ c.loadWorkers → Text.isAllBlank c.listen = false
      → (c.validate = .ok () ↔ c.loadRequest.profile = .ok c.loadRequest.asked)
  handler :
    ∀ (c : Config) (s : Service) (instant : Time.Instant) (r : Http.Request),
      1 ≤ c.loadWorkers → Text.isAllBlank c.listen = false
      → Http.Route.ofPath? r.path = some .loadStart → r.verb = "POST"
      → LoadRequest.read r.headers r.body = .ok c.loadRequest
      → (c.validate = .ok ()
        ↔ s.handle instant r = .order (.start c.loadRequest c.loadRequest.asked))
  boot :
    ∀ (env : Environment) (files : Config.Files) (launch : Startup.Launch)
      (events : List Log.Event) (profile : LoadProfile),
      Startup.prepare env files = (some launch, events) → launch.profile? = some profile
      → launch.config.loadRequest.profile = .ok profile ∧ profile.Admitted
  runs :
    ∀ (env : Environment) (files : Config.Files) (launch : Startup.Launch)
      (events : List Log.Event) (surroundings : Load.Surroundings) (now : Duration)
      (history : Traffic.History),
      Startup.prepare env files = (some launch, events)
      → (Traffic.run surroundings ⟨launch.service now, []⟩ history).service.bench.control.Runs
          LoadProfile.Admitted

/-- Load is let in like this. -/
theorem admissionLaw
    : AdmissionLaw where
  doors _ loads listen := Config.validate_iff_profile loads listen
  handler := by
    intro c s instant r loads listen routed posted read
    rw [Config.validate_iff_profile loads listen, Service.handle_start routed posted read]
    cases bounds : c.loadRequest.profile with
    | error => simp
    | ok profile => simp
  boot := by
    intro env files launch events profile prepared loads
    have bounds := Startup.profile_of_prepare prepared loads
    exact ⟨bounds, LoadRequest.admitted_of_profile bounds⟩
  runs := by
    intro env files launch events surroundings now history prepared
    have opening : Traffic.Admitted ⟨launch.service now, []⟩ :=
      Traffic.admitted_launch now fun profile loads =>
        LoadRequest.admitted_of_profile (Startup.profile_of_prepare prepared loads)
    exact (opening.run surroundings history).runs

end CallWatch
