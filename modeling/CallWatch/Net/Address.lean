import CallWatch.Text.Integer

/-! Internet addresses with a port, and their written form.
An address of version 6 is written with its longest run of at least two zero groups left
out; of several longest runs it is the first, and an address that only carries one of
version 4 shows that one.
-/

namespace CallWatch.Net

/-- An address of version 4: its four octets. -/
structure Address4 where
  a : Nat
  b : Nat
  c : Nat
  d : Nat
  deriving DecidableEq, Repr

/-- An address of version 6: its eight groups of sixteen bits. -/
structure Address6 where
  groups : List Nat
  length_eq : groups.length = 8
  deriving DecidableEq

/-- An address with a port; a zone of zero stands for no zone. -/
inductive Endpoint where
  | v4 (address : Address4) (port : Nat)
  | v6 (address : Address6) (zone : Nat) (port : Nat)
  deriving DecidableEq

def Address4.text (x : Address4) : String :=
  Text.decimal x.a ++ "." ++ Text.decimal x.b ++ "." ++ Text.decimal x.c ++ "."
    ++ Text.decimal x.d

namespace Address6

/-- The address of version 4 that an address carries, if it carries one. -/
def carried? (x : Address6) : Option Address4 :=
  match x.groups with
  | [0, 0, 0, 0, 0, 0xFFFF, high, low] =>
    some ⟨high / 256, high % 256, low / 256, low % 256⟩
  | _ => none

/-- A run of zero groups: where it starts and how long it is. -/
structure Gap where
  start : Nat
  length : Nat
  deriving DecidableEq, Repr

/-- The first of the longest runs of zeros, where `current` is the run that ends before
`index` and `longest` the longest so far.
-/
def longestFrom (index : Nat) (current longest : Gap) : List Nat → Gap
  | [] => longest
  | group :: rest =>
    if group = 0 then
      let start := if current.length = 0 then index else current.start
      let current := ⟨start, current.length + 1⟩
      let longest := if longest.length < current.length then current else longest
      longestFrom (index + 1) current longest rest
    else longestFrom (index + 1) ⟨0, 0⟩ longest rest

def groupsText (groups : List Nat) : String :=
  ":".intercalate (groups.map fun group => String.ofList (Nat.toDigits 16 group))

def text (x : Address6) : String :=
  match x.carried? with
  | some carried => "::ffff:" ++ carried.text
  | none =>
    let gap := longestFrom 0 ⟨0, 0⟩ ⟨0, 0⟩ x.groups
    if 1 < gap.length then
      groupsText (x.groups.take gap.start) ++ "::"
        ++ groupsText (x.groups.drop (gap.start + gap.length))
    else groupsText x.groups

end Address6

def Endpoint.text : Endpoint → String
  | .v4 address port => address.text ++ ":" ++ Text.decimal port
  | .v6 address zone port =>
    let zoneText := if zone = 0 then "" else "%" ++ Text.decimal zone
    "[" ++ address.text ++ zoneText ++ "]:" ++ Text.decimal port

end CallWatch.Net
