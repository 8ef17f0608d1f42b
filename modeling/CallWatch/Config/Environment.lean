import CallWatch.Config.Decode

/-! Overriding settings from environment variables, and loading the configuration.
A value that cannot be used leaves its setting as it is and is reported by a warning.
-/

namespace CallWatch

/-- The variables that are consulted. -/
inductive Variable where
  | configPath
  | listen
  | maxLatencySamples
  | reportIntervalSecs
  | loadWorkers
  deriving DecidableEq, Repr

def Variable.name : Variable → String
  | .configPath => "OBSERVATORY_CONFIG"
  | .listen => "OBSERVATORY_LISTEN"
  | .maxLatencySamples => "OBSERVATORY_MAX_LATENCY_SAMPLES"
  | .reportIntervalSecs => "OBSERVATORY_REPORT_INTERVAL_SECONDS"
  | .loadWorkers => "OBSERVATORY_LOAD_WORKERS"

/-- The texts of the variables that are set; a value that is no text counts as unset. -/
abbrev Environment := Variable → Option String

/-- A value that was not used. -/
inductive Warning where
  /-- A positive integer was expected. -/
  | notPositive (about : Variable) (value : String)
  /-- The value is no integer of its range. -/
  | notNatural (about : Variable) (value : String) (fault : Text.IntegerFault)
  deriving DecidableEq, Repr

namespace Warning

def about : Warning → Variable
  | .notPositive about _ => about
  | .notNatural about _ _ => about

def value : Warning → String
  | .notPositive _ value => value
  | .notNatural _ value _ => value

def message : Warning → String
  | .notPositive .. => "expected a positive integer, keeping default"
  | .notNatural .. => "ignoring invalid value"

/-- The wording of the fault of a warning, if it tells one. -/
def faultMessage? : Warning → Option String
  | .notPositive .. => none
  | .notNatural _ _ fault => some fault.message

end Warning

namespace Config

/-- The positive integer that a text stands for, with blanks around it. -/
def positive? (value : String) : Option Nat :=
  match Text.readInteger (twoPow 63) (greatestWord 63) (Text.trimBlank value.toList) with
  | .ok n => if 0 < n then some n.toNat else none
  | .error _ => none

/-- The setting that a value of a positive variable gives, and the warning about it. An
empty value is passed over in silence.
-/
def positiveOverride (about : Variable) : Option String → Option Nat × List Warning
  | none => (none, [])
  | some value =>
    if value = "" then (none, [])
    else
      match positive? value with
      | some n => (some n, [])
      | none => (none, [.notPositive about value])

/-- The number of workers that a value gives, and the warning about it. -/
def workersOverride : Option String → Option Nat × List Warning
  | none => (none, [])
  | some value =>
    match Text.readNatural (greatestWord 32) (Text.trimBlank value.toList) with
    | .ok n => (some n, [])
    | .error fault => (none, [.notNatural .loadWorkers value fault])

/-- The address that a value gives: the value as it is, unless it is blank. -/
def listenOverride : Option String → Option String
  | none => none
  | some value => if Text.isAllBlank value then none else some value

def override (c : Config) (env : Environment) : Config × List Warning :=
  let (samples, samplesWarning) :=
    positiveOverride .maxLatencySamples (env .maxLatencySamples)
  let (interval, intervalWarning) :=
    positiveOverride .reportIntervalSecs (env .reportIntervalSecs)
  let (workers, workersWarning) := workersOverride (env .loadWorkers)
  ({ c with
      listen := (listenOverride (env .listen)).getD c.listen
      maxLatencySamples := samples.getD c.maxLatencySamples
      reportIntervalSecs := interval.getD c.reportIntervalSecs
      loadWorkers := workers.getD c.loadWorkers },
    samplesWarning ++ intervalWarning ++ workersWarning)

/-- What a path holds: the bytes of a file, or why it cannot be read. -/
abbrev Files := String → Except FileFault (List UInt8)

def ofFile (files : Files) (path : String) : Except Fault Config :=
  match files path with
  | .error cause => .error (.file cause)
  | .ok bytes =>
    match Text.Utf8.decode? bytes with
    | none => .error (.file .notUtf8)
    | some _ => ofBytes bytes

/-- The configuration before the environment overrides it: that of the file that the
environment names, or the default.
-/
def base (env : Environment) (files : Files) : Except Fault Config :=
  match env .configPath with
  | none => .ok {}
  | some path => if path = "" then .ok {} else ofFile files path

/-- Loads the configuration: the file or the default, then the environment, then the rules
once more. The warnings are those of the override, if it was reached.
-/
def load (env : Environment) (files : Files) : Except Fault Config × List Warning :=
  match base env files with
  | .error fault => (.error fault, [])
  | .ok c =>
    let (c, warnings) := c.override env
    (c.checked, warnings)

end Config

end CallWatch
