import CallWatch.Config.Environment
import CallWatch.Log.Filter
import CallWatch.Net.AddressReader
import CallWatch.Service.Basic

/-! Start and stop of the process, with the events that it logs.
The process starts if its configuration is loaded and its address is one; otherwise it logs
why not and fails. With workers in the configuration a load run starts at once.
-/

namespace CallWatch.Startup

def mainTarget : String := "rpc_observatory"

def configTarget : String := "rpc_observatory::config"

def loadTarget : String := "rpc_observatory::load_generator"

def filterVariable : String := "RUST_LOG"

def warningEvent (w : Warning) : Log.Event where
  level := .warn
  target := configTarget
  message := w.message
  fields :=
    [("var", .quoted w.about.name), ("value", .plain w.value)]
      ++ (w.faultMessage?.map fun message => ("error", Log.Value.plain message)).toList

def faultEvent (fault : Fault) : Log.Event :=
  ⟨.error, mainTarget, "config load failed", [("error", .plain fault.message)]⟩

def addressEvent (listen : String) : Log.Event :=
  ⟨.error, mainTarget, "listen must be a valid SocketAddr",
    [("listen", .plain listen), ("error", .plain "invalid socket address syntax")]⟩

def secondsText (n : Nat) : String :=
  Text.decimal n ++ "s"

def profileText (p : LoadProfile) : String :=
  "LoadProfile \x7b concurrency: " ++ Text.decimal p.workers
    ++ ", duration: " ++ secondsText p.duration.seconds
    ++ ", error_pct: " ++ Text.decimal p.errorPct ++ " \x7d"

def loadEvent (p : LoadProfile) : Log.Event :=
  ⟨.info, mainTarget, "load generator starting", [("profile", .plain (profileText p))]⟩

def startEvent (config : Config) (endpoint : Net.Endpoint) : Log.Event :=
  ⟨.info, mainTarget, "rpc-observatory starting",
    [ ("listen", .plain endpoint.text),
      ("max_latency_samples", .plain (Text.decimal config.effectiveSamples)),
      ("report_interval", .plain (secondsText config.effectiveIntervalSecs)) ]⟩

def finishEvent : Log.Event :=
  ⟨.info, loadTarget, "load generator finished", []⟩

def stopEvent : Log.Event :=
  ⟨.info, mainTarget, "rpc-observatory stopped", []⟩

/-- A process that can start: its configuration, which keeps the rules, and its address. -/
structure Launch where
  config : Config
  endpoint : Net.Endpoint

/-- What the environment and the files lead to: a process that can start, or none, and the
events so far.
-/
def prepare (env : Environment) (files : Config.Files) : Option Launch × List Log.Event :=
  let (result, warnings) := Config.load env files
  let events := warnings.map warningEvent
  match result with
  | .error fault => (none, events ++ [faultEvent fault])
  | .ok config =>
    match Net.Endpoint.ofText? config.listen with
    | none => (none, events ++ [addressEvent config.listen])
    | some endpoint => (some ⟨config, endpoint⟩, events)

namespace Launch

/-- The load run with which the process starts, if it starts with one. -/
def profile? (l : Launch) : Option LoadProfile :=
  if l.config.loadWorkers = 0 then none
  else
    some ⟨l.config.loadWorkers, Duration.ofSeconds l.config.loadDurationSecs,
      l.config.loadErrorPct⟩

/-- The service at the start of the process: its reporter runs, and so does the load. -/
def service (now : Duration) (l : Launch) : Service :=
  let s := (Service.start l.config).startReporter now
  match l.profile? with
  | none => s
  | some profile =>
    { s with nextOrder := s.nextOrder + 1 }.withControl
      (Load.Task.run s.nextOrder 4 (.startQueued profile) s.bench.control).2

def opening (l : Launch) : List Log.Event :=
  (l.profile?.map loadEvent).toList ++ [startEvent l.config l.endpoint]

/-- The events of a process that is stopped right after its start. -/
def closing (l : Launch) : List Log.Event :=
  (l.profile?.map fun _ => finishEvent).toList ++ [stopEvent]

end Launch

/-- The exit code of a process and the events of its whole life, when it is stopped right
after its start.
-/
def life (env : Environment) (files : Config.Files) : Nat × List Log.Event :=
  match prepare env files with
  | (none, events) => (1, events)
  | (some launch, events) => (0, events ++ launch.opening ++ launch.closing)

/-- The exit code of a process that breaks off before it logs anything. -/
def brokenOff : Nat := 101

/-- The exit code of a process and the lines that it logs in its whole life, given the setting
of its log filter. It breaks off when the setting has no filter.
-/
def transcript (setting : Option String) (env : Environment) (files : Config.Files)
    : Nat × List String :=
  match Log.Filter.ofSetting? setting with
  | none => (brokenOff, [])
  | some filter =>
    let (code, events) := life env files
    (code, (events.filter filter.shows).flatMap Log.Event.lines)

end CallWatch.Startup
