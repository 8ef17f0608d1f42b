import CallWatch.Json.ValueReader

/-! Reading a flat record from JSON: an object with its members in any order, or a list of
its first values in the order of declaration.
The reader gives the members that were there; what is left out is for the caller to fill
in.
-/

namespace CallWatch.Json

/-- What the value of a member has to be. -/
inductive Kind where
  /-- A text. -/
  | text
  /-- A natural number of at most `greatest`, in a type of some name. -/
  | natural (typeName : String) (greatest : Nat)
  deriving DecidableEq

/-- A value that a member can have. -/
inductive Scalar where
  | text (value : String)
  | natural (value : Nat)
  deriving DecidableEq, Repr

/-- The members of a record in the order of declaration, and what happens to a name that is
none of them.
-/
structure Shape where
  typeName : String
  members : List (String × Kind)
  refusesUnknown : Bool

/-- The members that were read, in the order of the text. -/
abbrev Members := List (String × Scalar)

/-- Reads the value of a member; the cursor may stand before blanks. -/
def readScalar (kind : Kind) (c : Cursor) : Except ReadError (Scalar × Cursor) := do
  let c := c.skipBlank
  match kind, c.peek? with
  | _, none => failNext .endInValue c
  | .text, some b =>
    if b = 0x22 then
      let (s, c) ← readText c.next
      return (.text s, c)
    else wrongType "a string" c
  | .natural typeName greatest, some b =>
    if b ≠ 0x2D && !isDigit b then wrongType typeName c
    else
      let (value, c) ← if b = 0x2D then readNumber true c.next else readNumber false c
      match value with
      | .natural n =>
        if n ≤ greatest then return (.natural n, c)
        else failHere (.invalidValue n typeName) c
      | .negative n => failHere (.invalidValue n typeName) c
      | .float x => failHere (.invalidType (.float x) typeName) c

def readColon (c : Cursor) : Except ReadError Cursor :=
  let c := c.skipBlank
  match c.peek? with
  | none => failNext .endInObject c
  | some b => if b = 0x3A then .ok c.next else failNext .expectedColon c

/-- Reads the start of the next name, or gives none before the closing brace. -/
def nextName? (first : Bool) (c : Cursor) : Except ReadError (Option Cursor) :=
  let c := c.skipBlank
  match c.peek? with
  | none => failNext .endInObject c
  | some b =>
    if b = 0x7D then .ok none
    else if b = 0x2C && !first then
      let c := c.next.skipBlank
      match c.peek? with
      | none => failNext .endInValue c
      | some b =>
        if b = 0x22 then .ok (some c.next)
        else if b = 0x7D then failNext .trailingComma c
        else failNext .keyNotText c
    else if !first then failNext .expectedObjectEnd c
    else if b = 0x22 then .ok (some c.next)
    else failNext .keyNotText c

/-- Stops with an error about a name. It reports the position after the blanks that follow
and, if the object ends there, after its brace.
-/
def failName {α : Type} (cause : Cause) (c : Cursor) : Except ReadError α :=
  let c := c.skipBlank
  if c.peek? = some 0x7D then failHere cause c.next else failHere cause c

/-- An error in the value of a member arises within that member. -/
def within {α : Type} (place : Place) : Except ReadError α → Except ReadError α
  | .ok value => .ok value
  | .error e => .error (e.within place)

/-- Reads members to the closing brace; `done` holds the members so far, the newest first.
Every member takes a byte, so the number of bytes and one are fuel enough.
-/
def readMembers (shape : Shape)
    : Nat → Bool → Members → Cursor → Except ReadError (Members × Cursor)
  | 0, _, _, c => failNext .endInObject c
  | fuel + 1, first, done, c => do
    match ← nextName? first c with
    | none => return (done.reverse, c.skipBlank.next)
    | some c =>
      let (name, c) ← readText c
      match shape.members.lookup name with
      | some kind =>
        if (done.lookup name).isSome then failName (.duplicateField name) c
        else
          let c ← readColon c
          let (value, c) ← within (.member name) (readScalar kind c)
          readMembers shape fuel false ((name, value) :: done) c
      | none =>
        if shape.refusesUnknown then
          failName (.unknownField name (shape.members.map (·.1))) c
        else
          let c ← readColon c
          let c ← within (.member name) (skipValue c)
          readMembers shape fuel false done c

/-- Moves to the next item of a list, or gives none before the closing bracket. -/
def nextItem? (first : Bool) (c : Cursor) : Except ReadError (Option Cursor) :=
  let c := c.skipBlank
  match c.peek? with
  | none => failNext .endInList c
  | some b =>
    if b = 0x5D then .ok none
    else if first then .ok (some c)
    else if b = 0x2C then
      let c := c.next.skipBlank
      match c.peek? with
      | none => failNext .endInValue c
      | some b => if b = 0x5D then failNext .trailingComma c else .ok (some c)
    else failNext .expectedListEnd c

/-- Reads the closing bracket after the last member of a record. -/
def readListEnd (c : Cursor) : Except ReadError Cursor :=
  let c := c.skipBlank
  match c.peek? with
  | none => failNext .endInList c
  | some b =>
    if b = 0x5D then .ok c.next
    else if b = 0x2C then
      let c := c.next.skipBlank
      if c.peek? = some 0x5D then failNext .trailingComma c
      else failNext .trailingCharacters c
    else failNext .trailingCharacters c

/-- Reads items for the members from `index` on; the list may end before the members do. -/
def readItems (index : Nat) (c : Cursor)
    : List (String × Kind) → Except ReadError (Members × Cursor)
  | [] => do return ([], ← readListEnd c)
  | (name, kind) :: members => do
    match ← nextItem? (index = 0) c with
    | none => return ([], ← readListEnd c)
    | some c =>
      let (value, c) ← within (.item index) (readScalar kind c)
      let (done, c) ← readItems (index + 1) c members
      return ((name, value) :: done, c)

def readRecord (shape : Shape) (c : Cursor) : Except ReadError (Members × Cursor) :=
  let c := c.skipBlank
  match c.peek? with
  | none => failNext .endInValue c
  | some b =>
    if b = 0x7B then readMembers shape (c.rest.length + 1) true [] c.next
    else if b = 0x5B then readItems 0 c.next shape.members
    else wrongType ("struct " ++ shape.typeName) c

/-- Reads a record that is a whole text, with blanks around it. -/
def readDocument (shape : Shape) (bytes : List UInt8) : Except ReadError Members := do
  let (members, c) ← readRecord shape (.start bytes)
  let c := c.skipBlank
  if c.rest.isEmpty then return members else failNext .trailingCharacters c

namespace Members

def text (m : Members) (name default : String) : String :=
  match m.lookup name with
  | some (.text value) => value
  | _ => default

def natural (m : Members) (name : String) (default : Nat) : Nat :=
  match m.lookup name with
  | some (.natural value) => value
  | _ => default

end Members

end CallWatch.Json
