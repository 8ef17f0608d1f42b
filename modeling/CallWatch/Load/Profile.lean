import CallWatch.Time.Duration

/-! Profiles of synthetic load runs and the bounds within which a run may be started.
-/

namespace CallWatch

/-- The parameters of a run: its workers, its length and the percentage of calls that fail. -/
structure LoadProfile where
  workers : Nat
  duration : Duration
  errorPct : Nat
  deriving DecidableEq, Repr, Inhabited

namespace LoadProfile

def mostWorkers : Nat := 500

def mostSeconds : Nat := 300

def mostErrorPct : Nat := 100

end LoadProfile

end CallWatch
