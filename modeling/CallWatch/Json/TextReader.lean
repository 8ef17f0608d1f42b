import CallWatch.Json.ReadError
import CallWatch.Text.Hexadecimal
import CallWatch.Text.Utf8

/-! Reading a JSON text from the byte after its opening quote.
The reader is a machine with one transition per byte. A strict reader checks surrogates and
gives the text; a lenient one only finds the closing quote.
-/

namespace CallWatch.Json

/-- Where the reader stands within a text. -/
inductive TextState where
  /-- Between characters. -/
  | plain
  /-- After a backslash. -/
  | escape
  /-- Within the four digits of an escape, after a leading surrogate if there is one. -/
  | hex (leading : Option Nat) (digits : List UInt8)
  /-- After a leading surrogate, before the backslash of the trailing one. -/
  | pairSlash (leading : Nat)
  /-- After a leading surrogate and a backslash. -/
  | pairMark (leading : Nat)

def hexDigitsValue? (digits : List UInt8) : Option Nat :=
  digits.foldlM (fun value b => (Text.hexValue? b.toNat).map (value * 16 + ·)) 0

def shortEscape? (b : UInt8) : Option UInt8 :=
  if b = 0x22 then some 0x22
  else if b = 0x5C then some 0x5C
  else if b = 0x2F then some 0x2F
  else if b = 0x62 then some 0x08
  else if b = 0x66 then some 0x0C
  else if b = 0x6E then some 0x0A
  else if b = 0x72 then some 0x0D
  else if b = 0x74 then some 0x09
  else none

/-- A code point that begins a surrogate pair. -/
def isLeading (n : Nat) : Bool := 0xD800 ≤ n && n ≤ 0xDBFF

/-- A code point that ends a surrogate pair. -/
def isTrailing (n : Nat) : Bool := 0xDC00 ≤ n && n ≤ 0xDFFF

/-- What an escape of four digits leads to: the bytes of its code point, or the state that
waits for the second half of a pair.
-/
def escaped (leading : Option Nat) (n : Nat) : Except Cause (List UInt8 × TextState) :=
  match leading with
  | none =>
    if isTrailing n then .error .loneSurrogate
    else if isLeading n then .ok ([], .pairSlash n)
    else .ok (Text.Utf8.encodeChar (Char.ofNat n), .plain)
  | some high =>
    if isTrailing n then
      let point := (high - 0xD800) * 0x400 + (n - 0xDC00) + 0x10000
      .ok (Text.Utf8.encodeChar (Char.ofNat point), .plain)
    else .error .loneSurrogate

/-- Reads to the closing quote; `done` holds the bytes so far, the newest first. -/
def readTextFrom (strict : Bool) (state : TextState) (done : List UInt8) (pos : Position)
    : List UInt8 → Except ReadError (List UInt8 × Cursor)
  | [] => failHere .endInText ⟨pos, []⟩
  | b :: rest =>
    let after := pos.after b
    match state with
    | .plain =>
      if b = 0x22 then .ok (done.reverse, ⟨after, rest⟩)
      else if b = 0x5C then readTextFrom strict .escape done after rest
      else if b < 0x20 then
        failHere .controlCharacter ⟨if strict then after else pos, rest⟩
      else readTextFrom strict .plain (b :: done) after rest
    | .escape =>
      if b = 0x75 then readTextFrom strict (.hex none []) done after rest
      else
        match shortEscape? b with
        | some byte => readTextFrom strict .plain (byte :: done) after rest
        | none => failHere .invalidEscape ⟨after, rest⟩
    | .hex leading digits =>
      let digits := digits ++ [b]
      if digits.length < 4 then readTextFrom strict (.hex leading digits) done after rest
      else
        match hexDigitsValue? digits with
        | none => failHere .invalidEscape ⟨after, rest⟩
        | some n =>
          if strict then
            match escaped leading n with
            | .ok (bytes, state) =>
              readTextFrom strict state (bytes.reverse ++ done) after rest
            | .error cause => failHere cause ⟨after, rest⟩
          else readTextFrom strict .plain done after rest
    | .pairSlash leading =>
      if b = 0x5C then readTextFrom strict (.pairMark leading) done after rest
      else failHere .unpairedSurrogate ⟨after, rest⟩
    | .pairMark leading =>
      if b = 0x75 then readTextFrom strict (.hex (some leading) []) done after rest
      else failHere .unpairedSurrogate ⟨after, rest⟩

def readText (c : Cursor) : Except ReadError (String × Cursor) := do
  let (bytes, c) ← readTextFrom true .plain [] c.pos c.rest
  match Text.Utf8.text? bytes with
  | some s => return (s, c)
  | none => failHere .invalidUtf8 c

def skipText (c : Cursor) : Except ReadError Cursor := do
  let (_, c) ← readTextFrom false .plain [] c.pos c.rest
  return c

end CallWatch.Json
