import CallWatch.Log.Event
import CallWatch.Text.Integer
import CallWatch.Word

/-! How grave an event has to be in order to be shown.
-/

namespace CallWatch.Log

/-- From which level on events are shown; none shows nothing. -/
abbrev Threshold := Option Level

namespace Threshold

def shows (t : Threshold) (level : Level) : Bool :=
  match t with
  | some least => level.rank ≤ least.rank
  | none => false

def numbered : List Threshold :=
  [none, some .error, some .warn, some .info, some .debug, some .trace]

/-- The threshold of a name in letters of either case. -/
def ofName? (s : List Char) : Option Threshold :=
  let name := String.ofList (s.map Char.toUpper)
  if name = "OFF" then some none
  else if name = "ERROR" then some (some .error)
  else if name = "WARN" then some (some .warn)
  else if name = "INFO" then some (some .info)
  else if name = "DEBUG" then some (some .debug)
  else if name = "TRACE" then some (some .trace)
  else none

def ofText? (s : List Char) : Option Threshold :=
  match Text.readNatural (greatestWord 64) s with
  | .ok n => numbered[n]?
  | .error _ => ofName? s

/-- The threshold of the text after an equals sign; an empty text shows everything. -/
def ofEnding? (s : List Char) : Option Threshold :=
  if s.isEmpty then some (some .trace) else ofText? s

end Threshold

end CallWatch.Log
