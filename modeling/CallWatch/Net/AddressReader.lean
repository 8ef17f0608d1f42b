import CallWatch.Net.Address
import CallWatch.Text.Hexadecimal
import CallWatch.Text.Integer
import CallWatch.Word

/-! Reading internet addresses with a port.
A reader takes what it reads from the start of a text and gives the rest; one that does not
find what it looks for takes nothing.
-/

namespace CallWatch.Net

/-- A reader of the start of a text. -/
abbrev Reader (α : Type) := List Char → Option (α × List Char)

def readMark (mark : Char) : List Char → Option (List Char)
  | c :: rest => if c = mark then some rest else none
  | [] => none

def isDecimal (c : Char) : Bool :=
  (Text.digitValue? c).isSome

def isHexadecimal (c : Char) : Bool :=
  (Text.hexValue? c.toNat).isSome

def hexadecimalValue (cs : List Char) : Nat :=
  cs.foldl (fun value c => value * 16 + (Text.hexValue? c.toNat).getD 0) 0

/-- Reads an octet: one to three digits, without a zero in front of others. -/
def readOctet : Reader Nat := fun s =>
  let taken := s.takeWhile isDecimal
  match Text.digitsValue? 0 taken with
  | some value =>
    let padded := taken.head? = some '0' && 1 < taken.length
    if taken.isEmpty || 3 < taken.length || padded || 255 < value then none
    else some (value, s.drop taken.length)
  | none => none

/-- Reads a number of at least one digit and of at most `greatest`, zeros in front
allowed.
-/
def readNumber (greatest : Nat) : Reader Nat := fun s =>
  let taken := s.takeWhile isDecimal
  match Text.digitsValue? 0 taken with
  | some value =>
    if taken.isEmpty || greatest < value then none else some (value, s.drop taken.length)
  | none => none

/-- Reads a group of one to four hexadecimal digits. -/
def readGroup : Reader Nat := fun s =>
  let taken := s.takeWhile isHexadecimal
  if taken.isEmpty || 4 < taken.length then none
  else some (hexadecimalValue taken, s.drop taken.length)

def readAddress4 : Reader Address4 := fun s => do
  let (a, s) ← readOctet s
  let (b, s) ← readOctet (← readMark '.' s)
  let (c, s) ← readOctet (← readMark '.' s)
  let (d, s) ← readOctet (← readMark '.' s)
  return (⟨a, b, c, d⟩, s)

/-- Reads what follows a colon, or, if nothing came before it, what stands at the start. -/
def afterColon {α : Type} (first : Bool) (read : Reader α) : Reader α := fun s =>
  if first then read s else (readMark ':' s).bind read

/-- Reads as many groups as there are, up to `slots`. An address of version 4 may stand for
the last two and ends the groups; the flag tells that it did.
-/
def readGroups : Nat → Bool → List Char → List Nat × Bool × List Char
  | 0, _, s => ([], false, s)
  | slots + 1, first, s =>
    match if slots = 0 then none else afterColon first readAddress4 s with
    | some (x, rest) => ([x.a * 256 + x.b, x.c * 256 + x.d], true, rest)
    | none =>
      match afterColon first readGroup s with
      | some (group, rest) =>
        let (groups, carried, rest) := readGroups slots false rest
        (group :: groups, carried, rest)
      | none => ([], false, s)

def Address6.ofGroups? (groups : List Nat) : Option Address6 :=
  if h : groups.length = 8 then some ⟨groups, h⟩ else none

/-- Reads an address of version 6: eight groups, or fewer with two colons for the zero
groups that are left out, of which there is at least one.
-/
def readAddress6 : Reader Address6 := fun s =>
  let (head, carried, s) := readGroups 8 true s
  if head.length = 8 then (Address6.ofGroups? head).map (·, s)
  else if carried then none
  else do
    let s ← readMark ':' (← readMark ':' s)
    let (tail, _, s) := readGroups (7 - head.length) true s
    let zeros := List.replicate (8 - head.length - tail.length) 0
    let address ← Address6.ofGroups? (head ++ zeros ++ tail)
    return (address, s)

def readPort : Reader Nat := fun s =>
  (readMark ':' s).bind (readNumber 65535)

def readEndpoint4 : Reader Endpoint := fun s => do
  let (address, s) ← readAddress4 s
  let (port, s) ← readPort s
  return (.v4 address port, s)

/-- Reads the zone after a percent sign; without one the zone is zero. -/
def readZone (s : List Char) : Nat × List Char :=
  ((readMark '%' s).bind (readNumber (greatestWord 32))).getD (0, s)

/-- Reads an address of version 6 in brackets with its port. -/
def readEndpoint6 : Reader Endpoint := fun s => do
  let (address, s) ← readAddress6 (← readMark '[' s)
  let (zone, s) := readZone s
  let (port, s) ← readPort (← readMark ']' s)
  return (.v6 address zone port, s)

/-- Reads a whole text as an address with its port. -/
def Endpoint.ofText? (s : String) : Option Endpoint :=
  match (readEndpoint4 s.toList).orElse fun _ => readEndpoint6 s.toList with
  | some (endpoint, []) => some endpoint
  | _ => none

end CallWatch.Net
