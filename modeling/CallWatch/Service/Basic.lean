import CallWatch.Config.Basic
import CallWatch.Load.Bench
import CallWatch.Reporter.Loop

/-! The service: its configuration, its load runs with the observatory, and its reporter.
-/

namespace CallWatch

/-- The state of the service. Requests that wait for the lock of load control are numbered;
`nextOrder` is the next of these numbers.
-/
structure Service where
  config : Config
  bench : Load.Bench
  reporter : Option Reporter.Loop
  nextOrder : Nat
  deriving Inhabited

namespace Service

/-- The service at its start. Its windows hold as many latencies as the configuration
says.
-/
def start (config : Config) : Service where
  config := config
  bench := ⟨Load.Control.idle, ⟨some (Collector.new config.effectiveSamples), #[]⟩⟩
  reporter := none
  nextOrder := 0

def observatory (s : Service) : Observatory :=
  s.bench.observatory

def loadRunning (s : Service) : Bool :=
  s.bench.control.flag

def withObservatory (o : Observatory) (s : Service) : Service :=
  { s with bench := { s.bench with observatory := o } }

def withControl (c : Load.Control) (s : Service) : Service :=
  { s with bench := { s.bench with control := c } }

def snapshot (now : Time.Instant) (s : Service) : Snapshot :=
  match s.observatory.collector with
  | some c => c.snapshot now
  | none => ⟨now, []⟩

def period (s : Service) : Duration :=
  Duration.ofSeconds s.config.effectiveIntervalSecs

/-- Starts the reporter; one that was there before is let go. -/
def startReporter (now : Duration) (s : Service) : Service :=
  { s with reporter := some (.spawn now s.period false) }

def stopReporter (s : Service) : Service :=
  { s with reporter := s.reporter.map fun loop => (loop.send true).2 }

/-- All that happens at an instant. Calls of workers that were over before the tick for which
the reporter waits are completed before it reports, all others after it.
-/
def settle (surroundings : Load.Surroundings) (now : Duration) (s : Service) : Service :=
  match s.reporter with
  | none => { s with bench := s.bench.settle surroundings now }
  | some loop =>
    let bench := s.bench.advanceBefore surroundings now loop.schedule.due.wake
    let (loop, observatory) :=
      Reporter.settle surroundings.wall now loop bench.observatory
    let bench := { bench with observatory }.settle surroundings now
    { s with bench, reporter := some loop }

def deadline? (s : Service) : Option Duration :=
  Duration.earlier? s.bench.wake? (s.reporter.bind (·.deadline?))

def timers (surroundings : Load.Surroundings) : Time.Timers Service where
  deadline? := deadline?
  settle := settle surroundings

end Service

end CallWatch
