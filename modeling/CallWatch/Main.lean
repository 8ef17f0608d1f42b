import CallWatch.Log.Filter
import CallWatch.Random.Identifier
import CallWatch.Startup.Launch
import Std.Time.DateTime.Timestamp

/-! The program.
It starts the service as its environment says, runs it under the clocks of the machine until
its standard input ends, and logs to its standard output. The exit code is zero if it could
start.
-/

namespace CallWatch.Program

def report (filter : Log.Filter) (events : List Log.Event) : IO Unit := do
  for event in events do
    if filter.shows event then IO.println event.line

def readEnvironment : IO Environment := do
  let path ← IO.getEnv Variable.configPath.name
  let listen ← IO.getEnv Variable.listen.name
  let samples ← IO.getEnv Variable.maxLatencySamples.name
  let interval ← IO.getEnv Variable.reportIntervalSecs.name
  let workers ← IO.getEnv Variable.loadWorkers.name
  return fun
    | .configPath => path
    | .listen => listen
    | .maxLatencySamples => samples
    | .reportIntervalSecs => interval
    | .loadWorkers => workers

/-- A code of the system is `n`, given as it is or as its opposite. -/
def isCode (n : Nat) (code : UInt32) : Bool :=
  code.toNat = n || code.toNat + n = twoPow 32

/-- The fault of a failed attempt to read a file. -/
def fileFault (e : IO.Error) : FileFault :=
  match e with
  | .noFileOrDirectory .. => .notFound
  | .inappropriateType _ code _ => if isCode 20 code then .notDirectory else .isDirectory
  | .invalidArgument _ code _ => if isCode 36 code then .nameTooLong else .other (toString e)
  | _ => .other (toString e)

/-- What the file that the environment names holds; no other file is asked for. -/
def readFiles (env : Environment) : IO Config.Files := do
  match env .configPath with
  | none => return fun _ => .error .notFound
  | some path =>
    let content ← (IO.FS.readBinFile path).toBaseIO
    return fun _ =>
      match content with
      | .ok bytes => .ok bytes.toList
      | .error e => .error (fileFault e)

/-- What surrounds a process that begins at an instant of the machine's clock. -/
def surroundings (begun : Duration) : IO Load.Surroundings := do
  let stamp ← Std.Time.Timestamp.now
  let started := stamp.toNanosecondsSinceUnixEpoch.val.toNat
  let seed := (← IO.getRandomBytes 8).toList.foldl (fun n b => n * 256 + b.toNat) 0
  let ids (worker call : Nat) : String :=
    (Random.identifier (Random.Stream.ofSeed (seed + worker * twoPow 32 + call))).1
  return ⟨fun now => (⟨0, 0⟩ : Time.Instant).plus (started + (now - begun).nanos), ids⟩

def recordEvent (line : String) : Log.Event :=
  ⟨.info, "rpc_observatory::records", line, []⟩

/-- Prints the records of a service and empties its journal. -/
def writeRecords (filter : Log.Filter) (s : Service) : IO Service := do
  report filter (s.observatory.lines.map recordEvent)
  return s.withObservatory { s.observatory with journal := #[] }

/-- How long the program sleeps between two looks at the clock, in milliseconds. -/
def nap : UInt32 := 5

/-- The machine's clock. -/
def clock : BaseIO Duration :=
  return ⟨← IO.monoNanosNow⟩

/-- Runs a service until its work is over, and reports a load run that ends. -/
partial def run (filter : Log.Filter) (around : Load.Surroundings)
    (isOver : Service → BaseIO Bool) (s : Service) : IO Service := do
  let next ← writeRecords filter (s.settle around (← clock))
  if !s.bench.control.atRest && next.bench.control.runs.isEmpty then
    report filter [Startup.finishEvent]
  if ← isOver next then return next
  IO.sleep nap
  run filter around isOver next

partial def drain (input : IO.FS.Stream) : IO Unit := do
  if (← input.getLine).isEmpty then return
  drain input

/-- Starts the service and runs it, or tells why it cannot start. -/
def start (filter : Log.Filter) : IO UInt32 := do
  let env ← readEnvironment
  let (launch?, events) := Startup.prepare env (← readFiles env)
  report filter events
  match launch? with
  | none => return 1
  | some launch =>
    report filter launch.opening
    let begun ← clock
    let around ← surroundings begun
    let input ← IO.asTask (drain (← IO.getStdin))
    let s ← run filter around (fun _ => IO.hasFinished input) (launch.service begun)
    let s := s.withControl { s.bench.control with flag := false }
    let _ ← run filter around (fun s => return s.bench.control.atRest) s
    report filter [Startup.stopEvent]
    return 0

end CallWatch.Program

open CallWatch in
/-- Starts the service with the log filter of its setting, if the setting has one. -/
def main : IO UInt32 := do
  match Log.Filter.ofSetting? (← IO.getEnv Startup.filterVariable) with
  | some filter => Program.start filter
  | none => return UInt32.ofNat Startup.brokenOff
