/-! Header fields of requests and responses.
Names compare without regard to the case of ASCII letters, values are bytes, and of several
fields with one name the first counts.
-/

namespace CallWatch.Http

/-- A header field. -/
structure Field where
  name : String
  value : List UInt8

/-- Header fields in the order in which they came. -/
abbrev Headers := List Field

def lowerName (name : String) : String :=
  String.ofList (name.toList.map Char.toLower)

/-- The value of the first field of a name, which is given in lower case. -/
def Headers.first? (headers : Headers) (name : String) : Option (List UInt8) :=
  (headers.find? fun field => lowerName field.name = name).map (·.value)

/-- A byte that a header value shows as text: the tab and the printable ASCII characters. -/
def isVisible (b : UInt8) : Bool :=
  b = 9 || (0x20 ≤ b && b ≤ 0x7E)

def visibleText? (value : List UInt8) : Option String :=
  if value.all isVisible then some (String.ofList (value.map fun b => Char.ofNat b.toNat))
  else none

end CallWatch.Http
