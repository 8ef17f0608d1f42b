import CallWatch.Text.Blank

/-! Names of methods as the counters know them: trimmed, and one name for all blank ones.
-/

namespace CallWatch

/-- The name of calls that arrive without a usable method name. -/
def unknownMethod : String := "unknown"

/-- The name under which calls to a method are counted. -/
def normalizeMethod (method : String) : String :=
  let trimmed := Text.trim method
  if trimmed = "" then unknownMethod else trimmed

end CallWatch
