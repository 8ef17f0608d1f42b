import CallWatch.Proofs.Reporter.Rhythm
import CallWatch.Proofs.Service.Admission
import CallWatch.Proofs.Service.Silence
import CallWatch.Proofs.Startup.Loading

/-! Which deadlines of a configuration the clock can tell.
The length of a load run is bounded by a rule, and its deadline can be told. The interval of the
reports is not bounded, and there are configurations that are loaded and whose first deadline
lies beyond the clock. With such a one the process starts, but its reporter breaks off at once and
no report is ever written.
-/

namespace CallWatch

-----------------------------------------------------------------------------------------
-- The clock
-----------------------------------------------------------------------------------------

/-- Whole seconds are added to the seconds of an instant. -/
theorem Duration.seconds_add_ofSeconds (now : Duration) (k : Nat)
    : (now + ofSeconds k).seconds = now.seconds + k := by
  simp only [seconds, ofSeconds, nanos_add]
  omega

/-- An instant so many seconds later can be told if the sum of the seconds fits a signed word. -/
theorem Duration.isInstant_add_iff {now : Duration} {k : Nat}
    : (now + ofSeconds k).IsInstant ↔ now.seconds + k ≤ greatestWord 63 := by
  rw [IsInstant, seconds_add_ofSeconds]

-----------------------------------------------------------------------------------------
-- The settings
-----------------------------------------------------------------------------------------

namespace Config

/-- An interval of zero is corrected, so none is empty. -/
theorem effectiveIntervalSecs_pos (c : Config)
    : 1 ≤ c.effectiveIntervalSecs := by
  unfold effectiveIntervalSecs
  split
  · decide
  · omega

theorem effectiveIntervalSecs_le {c : Config} {greatest : Nat} (least : 60 ≤ greatest)
    (within : c.reportIntervalSecs ≤ greatest)
    : c.effectiveIntervalSecs ≤ greatest := by
  unfold effectiveIntervalSecs
  split
  · exact least
  · exact within

/-- The ranges of the two settings in a configuration that can be loaded. -/
theorem Loadable.ranges {c : Config} (loadable : c.Loadable)
    : (1 ≤ c.loadDurationSecs ∧ c.loadDurationSecs ≤ 300)
      ∧ 1 ≤ c.effectiveIntervalSecs
      ∧ c.effectiveIntervalSecs ≤ greatestWord 64 := by
  obtain ⟨range, valid⟩ := loadable_iff.mp loadable
  have duration := (validate_eq_ok_iff.mp valid).2.2.1
  have least : 60 ≤ greatestWord 64 := by decide
  exact ⟨duration, c.effectiveIntervalSecs_pos, effectiveIntervalSecs_le least range.interval⟩

/-- No rule is about the interval: it can be exchanged for any other of its type. -/
theorem Loadable.withInterval {c : Config} (loadable : c.Loadable) {k : Nat}
    (fits : k ≤ greatestWord 64)
    : Loadable { c with reportIntervalSecs := k } := by
  obtain ⟨range, valid⟩ := loadable_iff.mp loadable
  exact loadable_iff.mpr ⟨{ range with interval := fits }, valid⟩

end Config

-----------------------------------------------------------------------------------------
-- The deadlines
-----------------------------------------------------------------------------------------

namespace Startup

/-- When the first report of a process is due that starts at an instant. -/
def Launch.firstReport (now : Duration) (l : Launch) : Duration :=
  now + Duration.ofSeconds l.config.effectiveIntervalSecs

/-- When the load of a process is to end that starts at an instant. -/
def Launch.loadDeadline (now : Duration) (l : Launch) : Duration :=
  now + Duration.ofSeconds l.config.loadDurationSecs

/-- The same process with another interval. -/
def Launch.withInterval (k : Nat) (l : Launch) : Launch :=
  { l with config := { l.config with reportIntervalSecs := k } }

section Launch
variable {launch : Launch} {now : Duration}

/-- The reporter of a process that starts is spawned for its first report. -/
theorem reporter_service
    : (launch.service now).reporter
      = some (.spawn now (Duration.ofSeconds launch.config.effectiveIntervalSecs) false) := by
  unfold Launch.service
  split <;> rfl

/-- The schedule of the reporter begins with the first report. -/
theorem due_firstReport
    : (Reporter.Schedule.startingAt now
        (Duration.ofSeconds launch.config.effectiveIntervalSecs)).due
      = launch.firstReport now := by
  have positive := launch.config.effectiveIntervalSecs_pos
  have some : Duration.ofSeconds launch.config.effectiveIntervalSecs ≠ Duration.zero := by
    intro zero
    have : launch.config.effectiveIntervalSecs * 1000000000 = 0 := congrArg Duration.nanos zero
    omega
  rw [(Reporter.Schedule.startingAt_eq now _).2, Reporter.periodOf, if_neg some,
    Launch.firstReport]

/-- The reporter waits for the first report if the clock can tell when it is due. -/
theorem exists_running (instant : (launch.firstReport now).IsInstant)
    : ∃ loop,
        (launch.service now).reporter = some loop
        ∧ loop.running = true
        ∧ loop.schedule.due = launch.firstReport now := by
  refine ⟨_, reporter_service, ?_, ?_⟩
  · rw [Reporter.Loop.running, Reporter.Loop.place_spawn, if_pos (due_firstReport ▸ instant)]
    rfl
  · rw [Reporter.Loop.schedule_spawn]
    exact due_firstReport

/-- Otherwise nobody is there to report. -/
theorem unattended_service (beyond : ¬ (launch.firstReport now).IsInstant)
    : (launch.service now).Unattended := by
  intro loop found
  obtain rfl := Option.some.inj (reporter_service.symm.trans found)
  rw [Reporter.Loop.running, Reporter.Loop.place_spawn, if_neg (due_firstReport ▸ beyond)]
  rfl

theorem reports_service (launch : Launch) (now : Duration)
    : (launch.service now).observatory.reports = [] := by
  unfold Launch.service
  split <;> rfl

/-- The processes that can start are those with a configuration that can be loaded and an address
to listen on.
-/
theorem exists_prepare_iff
    : (∃ env files events, prepare env files = (some launch, events))
      ↔ launch.config.Loadable
        ∧ Net.Endpoint.ofText? launch.config.listen = some launch.endpoint := by
  constructor
  · rintro ⟨env, files, events, prepared⟩
    refine ⟨⟨env, files, load_of_prepare prepared⟩, ?_⟩
    unfold prepare at prepared
    generalize Config.load env files = loaded at prepared
    obtain ⟨result, warnings⟩ := loaded
    cases result with
    | error fault => cases prepared
    | ok config =>
        dsimp only at prepared
        split at prepared
        · cases prepared
        · next address =>
          cases prepared
          exact address
  · rintro ⟨⟨env, files, loaded⟩, address⟩
    refine ⟨env, files, (Config.load env files).2.map warningEvent, ?_⟩
    unfold prepare
    generalize Config.load env files = result at loaded ⊢
    obtain ⟨result, warnings⟩ := result
    cases loaded
    simp only [address]

theorem duration_profile {profile : LoadProfile} (loads : launch.profile? = some profile)
    : now + profile.duration = launch.loadDeadline now := by
  unfold Launch.profile? at loads
  split at loads
  · cases loads
  · cases loads
    rfl

/-- The load that a process starts with has the deadline of its configuration. -/
theorem deadline_launch {profile : LoadProfile} (loads : launch.profile? = some profile)
    (instant : (launch.loadDeadline now).IsInstant) (number : Nat)
    : ∃ terms workers,
        ((Load.Run.new number profile).launch now).launched = some (terms, workers)
        ∧ terms.deadline = launch.loadDeadline now := by
  rw [← duration_profile loads] at instant ⊢
  rw [Load.Run.launch, Load.Run.launchWith_new_of_told instant]
  exact ⟨_, _, rfl, rfl⟩

/-- It breaks off if the clock cannot tell that. -/
theorem brokenOff_launch {profile : LoadProfile} (loads : launch.profile? = some profile)
    (beyond : ¬ (launch.loadDeadline now).IsInstant) (number : Nat)
    : ((Load.Run.new number profile).launch now).launched = none
      ∧ ((Load.Run.new number profile).launch now).brokenOff = true := by
  rw [← duration_profile loads] at beyond
  rw [Load.Run.launch, Load.Run.launchWith_new_of_untold beyond]
  exact ⟨rfl, rfl⟩

end Launch

/-- The law of the deadlines that a configuration sets for a process that starts at an instant.

- `started`: the process can start if its configuration can be loaded and has an address;
- `loadable`: which configurations can be loaded, and the ranges of the two settings in them;
- `load`: the deadline of a load run can be told, up to five minutes before the end of the clock,
  and then it is the one of the run that the process starts with, if it does; if it cannot, that
  run breaks off at its launch;
- `report`: the deadline of the first report can be told if and only if the interval fits what is
  left of the clock;
- `unbounded`, `broken`: no rule bounds the interval, so from the first second of the clock on
  there is one that can be loaded and does not fit;
- `awaited`: with a deadline that can be told the reporter runs and waits for it;
- `silent`: with one that cannot, no report is written in the course of any history, unless
  another reporter is started.
-/
structure DeadlineLaw (launch : Launch) (now : Duration) : Prop where
  started :
    (∃ env files events, prepare env files = (some launch, events))
    ↔ launch.config.Loadable
      ∧ Net.Endpoint.ofText? launch.config.listen = some launch.endpoint
  loadable :
    (launch.config.Loadable
      ↔ launch.config.InRange ∧ launch.config.validate = .ok ())
    ∧ (launch.config.Loadable →
      (1 ≤ launch.config.loadDurationSecs ∧ launch.config.loadDurationSecs ≤ 300)
      ∧ 1 ≤ launch.config.effectiveIntervalSecs
      ∧ launch.config.effectiveIntervalSecs ≤ greatestWord 64)
  load :
    (launch.config.Loadable → now.seconds + 300 ≤ greatestWord 63
      → (launch.loadDeadline now).IsInstant)
    ∧ ∀ profile,
        launch.profile? = some profile
        → ∀ number,
            ((launch.loadDeadline now).IsInstant
              → ∃ terms workers,
                  ((Load.Run.new number profile).launch now).launched = some (terms, workers)
                  ∧ terms.deadline = launch.loadDeadline now)
            ∧ (¬ (launch.loadDeadline now).IsInstant
              → ((Load.Run.new number profile).launch now).launched = none
                ∧ ((Load.Run.new number profile).launch now).brokenOff = true)
  report :
    (launch.firstReport now).IsInstant
    ↔ now.seconds + launch.config.effectiveIntervalSecs ≤ greatestWord 63
  unbounded :
    launch.config.Loadable
    → ∀ k ≤ greatestWord 64, (launch.withInterval k).config.Loadable
  broken :
    launch.config.Loadable → 1 ≤ now.seconds
    → ∃ k,
        (launch.withInterval k).config.Loadable
        ∧ ¬ ((launch.withInterval k).firstReport now).IsInstant
  awaited :
    (launch.firstReport now).IsInstant
    → ∃ loop,
        (launch.service now).reporter = some loop
        ∧ loop.running = true
        ∧ loop.schedule.due = launch.firstReport now
  silent :
    ¬ (launch.firstReport now).IsInstant
    → ∀ surroundings (history : Traffic.History),
        (∀ entry ∈ history, entry.2 ≠ .startReporter)
        → (Traffic.run surroundings ⟨launch.service now, []⟩ history).service.observatory.reports
          = []

/-- The deadlines of every process that starts are like this. -/
theorem deadlineLaw (launch : Launch) (now : Duration)
    : DeadlineLaw launch now where
  started := exists_prepare_iff
  loadable := ⟨Config.loadable_iff, Config.Loadable.ranges⟩
  load := by
    refine ⟨fun loadable early => ?_, fun _ loads number =>
      ⟨fun instant => deadline_launch loads instant number,
        fun beyond => brokenOff_launch loads beyond number⟩⟩
    have most := loadable.ranges.1.2
    exact Duration.isInstant_add_iff.mpr (by omega)
  report := Duration.isInstant_add_iff
  unbounded := fun loadable _ => loadable.withInterval
  broken := by
    intro loadable begun
    have fits : greatestWord 63 ≤ greatestWord 64 := by decide
    have positive : greatestWord 63 ≠ 0 := by decide
    have interval : (launch.withInterval (greatestWord 63)).config.effectiveIntervalSecs
        = greatestWord 63 := if_neg positive
    refine ⟨greatestWord 63, loadable.withInterval fits, fun instant => ?_⟩
    have within := Duration.isInstant_add_iff.mp instant
    rw [interval] at within
    omega
  awaited := exists_running
  silent := by
    intro beyond surroundings history others
    calc
      _ = (launch.service now).observatory.reports :=
        Traffic.reports_run surroundings (Traffic.orderly_new (launch.service now))
          (unattended_service beyond) history others
      _ = [] := reports_service launch now

end Startup

end CallWatch
