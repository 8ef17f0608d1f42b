import CallWatch.Fault
import CallWatch.Json.RecordReader

/-! Reading a configuration from JSON: the six settings and no other name, each left out for
its default, and the rules checked in the end.
-/

namespace CallWatch.Config

def shape : Json.Shape where
  typeName := "ObservatoryConfig"
  members :=
    [ ("listen", .text),
      ("max_latency_samples", .natural "usize" (greatestWord 64)),
      ("report_interval_secs", .natural "u64" (greatestWord 64)),
      ("load_workers", .natural "u32" (greatestWord 32)),
      ("load_duration_secs", .natural "u64" (greatestWord 64)),
      ("load_error_pct", .natural "u8" 255) ]
  refusesUnknown := true

/-- The configuration of some members, with defaults for the others. -/
def ofMembers (m : Json.Members) : Config :=
  let base : Config := {}
  { listen := m.text "listen" base.listen
    maxLatencySamples := m.natural "max_latency_samples" base.maxLatencySamples
    reportIntervalSecs := m.natural "report_interval_secs" base.reportIntervalSecs
    loadWorkers := m.natural "load_workers" base.loadWorkers
    loadDurationSecs := m.natural "load_duration_secs" base.loadDurationSecs
    loadErrorPct := m.natural "load_error_pct" base.loadErrorPct }

def checked (c : Config) : Except Fault Config :=
  match c.validate with
  | .ok () => .ok c
  | .error broken => .error (.rule broken)

/-- The check lets the configurations through that keep the rules. -/
theorem checked_eq_ok_iff {c d : Config}
    : c.checked = .ok d ↔ d = c ∧ c.validate = .ok () := by
  unfold checked
  split
  · next valid => simp [valid, eq_comm]
  · next broken => simp [broken]

def ofBytes (bytes : List UInt8) : Except Fault Config :=
  match Json.readDocument shape bytes with
  | .ok members => (ofMembers members).checked
  | .error e => .error (.syntactic e)

def ofText (s : String) : Except Fault Config :=
  ofBytes (Text.Utf8.ofText s)

end CallWatch.Config
