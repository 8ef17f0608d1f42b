import CallWatch.Collector.Basic
import CallWatch.Load.Profile

/-! The configuration of the process, its defaults and the rules that it has to keep.
-/

namespace CallWatch

/-- The settings. A capacity or an interval of zero stands for its default, and zero workers
start no load.
-/
structure Config where
  listen : String := "0.0.0.0:3000"
  maxLatencySamples : Nat := defaultCapacity
  reportIntervalSecs : Nat := 60
  loadWorkers : Nat := 0
  loadDurationSecs : Nat := 30
  loadErrorPct : Nat := 5
  deriving DecidableEq, Repr, Inhabited

def defaultIntervalSecs : Nat := 60

/-- Which rule a configuration breaks. -/
inductive ConfigRule where
  | errorPct
  | workers
  | duration
  | listen
  deriving DecidableEq, Repr

def ConfigRule.message : ConfigRule → String
  | .errorPct => "load_error_pct must be between 0 and 100"
  | .workers => "load_workers must be between 0 and 500"
  | .duration => "load_duration_secs must be between 1 and 300"
  | .listen => "listen must not be empty"

namespace Config

def effectiveSamples (c : Config) : Nat :=
  if c.maxLatencySamples = 0 then defaultCapacity else c.maxLatencySamples

def effectiveIntervalSecs (c : Config) : Nat :=
  if c.reportIntervalSecs = 0 then defaultIntervalSecs else c.reportIntervalSecs

/-- Checks the rules; of several broken rules the first is reported. -/
def validate (c : Config) : Except ConfigRule Unit :=
  if LoadProfile.mostErrorPct < c.loadErrorPct then .error .errorPct
  else if LoadProfile.mostWorkers < c.loadWorkers then .error .workers
  else if c.loadDurationSecs = 0 ∨ LoadProfile.mostSeconds < c.loadDurationSecs then
    .error .duration
  else if Text.isAllBlank c.listen then .error .listen
  else .ok ()

/-- A configuration is valid if it keeps every rule. -/
theorem validate_eq_ok_iff {c : Config}
    : c.validate = .ok ()
      ↔ c.loadErrorPct ≤ 100
        ∧ c.loadWorkers ≤ 500
        ∧ (1 ≤ c.loadDurationSecs ∧ c.loadDurationSecs ≤ 300)
        ∧ Text.isAllBlank c.listen = false := by
  unfold validate LoadProfile.mostErrorPct LoadProfile.mostWorkers LoadProfile.mostSeconds
  repeat' split
  all_goals simp_all
  all_goals omega

end Config

end CallWatch
