import CallWatch.Json.NumberReader
import CallWatch.Json.TextReader

/-! Skipping a JSON value of any kind, and telling what a value is where it does not fit.
-/

namespace CallWatch.Json

def readWord (pos : Position) : List UInt8 → List UInt8 → Except ReadError Cursor
  | [], bytes => .ok ⟨pos, bytes⟩
  | _ :: _, [] => failHere .endInValue ⟨pos, []⟩
  | expected :: word, b :: rest =>
    if b = expected then readWord (pos.after b) word rest
    else failHere .expectedWord ⟨pos.after b, rest⟩

def restOfNull : List UInt8 := [0x75, 0x6C, 0x6C]

def restOfTrue : List UInt8 := [0x72, 0x75, 0x65]

def restOfFalse : List UInt8 := [0x61, 0x6C, 0x73, 0x65]

/-- Reads the rest of a word after its first byte. -/
def Cursor.word (c : Cursor) (rest : List UInt8) : Except ReadError Cursor :=
  readWord c.next.pos rest c.next.rest

/-- The kinds of values that hold others. -/
inductive Frame where
  | list
  | object
  deriving DecidableEq

/-- Skips the name of a member and the colon after it. -/
def skipName (c : Cursor) : Except ReadError Cursor := do
  let c := c.skipBlank
  match c.peek? with
  | none => failNext .endInObject c
  | some b =>
    if b ≠ 0x22 then failNext .keyNotText c
    else
      let c := (← skipText c.next).skipBlank
      match c.peek? with
      | none => failNext .endInObject c
      | some b => if b = 0x3A then return c.next else failNext .expectedColon c

/-- Skips a scalar, or gives none at a bracket or brace. -/
def skipScalar? (c : Cursor) : Except ReadError (Option Cursor) := do
  match c.peek? with
  | none => failNext .endInValue c
  | some b =>
    if b = 0x6E then return some (← c.word restOfNull)
    else if b = 0x74 then return some (← c.word restOfTrue)
    else if b = 0x66 then return some (← c.word restOfFalse)
    else if b = 0x2D then return some (← skipNumber c.next)
    else if isDigit b then return some (← skipNumber c)
    else if b = 0x22 then return some (← skipText c.next)
    else if b = 0x5B ∨ b = 0x7B then return none
    else failNext .expectedValue c

/-- Skips what is left to skip: a value if `value` holds, and then the rest of the values
that hold it, the innermost first. Every two steps read a byte, so twice the number of bytes
and two are fuel enough.
-/
def skipFrom : Nat → Bool → List Frame → Cursor → Except ReadError Cursor
  | 0, _, _, c => failNext .endInValue c
  | fuel + 1, true, frames, c => do
    let c := c.skipBlank
    match ← skipScalar? c with
    | some c => skipFrom fuel false frames c
    | none =>
      let isList := c.peek? = some 0x5B
      let c := c.next.skipBlank
      if isList then
        match c.peek? with
        | none => failNext .endInList c
        | some b =>
          if b = 0x5D then skipFrom fuel false frames c.next
          else skipFrom fuel true (.list :: frames) c
      else
        match c.peek? with
        | none => failNext .endInObject c
        | some b =>
          if b = 0x7D then skipFrom fuel false frames c.next
          else skipFrom fuel true (.object :: frames) (← skipName c)
  | _ + 1, false, [], c => .ok c
  | fuel + 1, false, frame :: frames, c => do
    let c := c.skipBlank
    match frame, c.peek? with
    | .list, none => failNext .endInList c
    | .object, none => failNext .endInObject c
    | .list, some b =>
      if b = 0x2C then skipFrom fuel true (.list :: frames) c.next
      else if b = 0x5D then skipFrom fuel false frames c.next
      else failNext .expectedListEnd c
    | .object, some b =>
      if b = 0x2C then skipFrom fuel true (.object :: frames) (← skipName c.next)
      else if b = 0x7D then skipFrom fuel false frames c.next
      else failNext .expectedObjectEnd c

def skipValue (c : Cursor) : Except ReadError Cursor :=
  skipFrom (2 * c.rest.length + 2) true [] c

/-- Reads a value that does not fit its place as far as it takes to tell what it is, and
stops with the type error or with an error of its form. A list or an object is not entered.
-/
def wrongType {α : Type} (expected : String) (c : Cursor) : Except ReadError α := do
  match c.peek? with
  | none => failNext .expectedValue c
  | some b =>
    if b = 0x6E then failHere (.invalidType .null expected) (← c.word restOfNull)
    else if b = 0x74 then
      failHere (.invalidType (.bool true) expected) (← c.word restOfTrue)
    else if b = 0x66 then
      failHere (.invalidType (.bool false) expected) (← c.word restOfFalse)
    else if b = 0x2D then
      let (value, c) ← readNumber true c.next
      failHere (.invalidType value.found expected) c
    else if isDigit b then
      let (value, c) ← readNumber false c
      failHere (.invalidType value.found expected) c
    else if b = 0x22 then
      let (s, c) ← readText c.next
      failHere (.invalidType (.text s) expected) c
    else if b = 0x5B then failHere (.invalidType .list expected) c
    else if b = 0x7B then failHere (.invalidType .object expected) c
    else failNext .expectedValue c

end CallWatch.Json
