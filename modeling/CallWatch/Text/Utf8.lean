import CallWatch.Word

/-! UTF-8 over lists of bytes.
`encode` writes every character in its shortest form, and `decode?` accepts these forms and
nothing else: no overlong form, no surrogate and nothing above the last code point.
-/

namespace CallWatch.Text.Utf8

def encodeChar (c : Char) : List UInt8 :=
  let n := c.toNat
  let tail (shift : Nat) : UInt8 := UInt8.ofNat (0x80 + n / twoPow shift % 64)
  if n < 0x80 then [UInt8.ofNat n]
  else if n < 0x800 then [UInt8.ofNat (0xC0 + n / 64), tail 0]
  else if n < 0x10000 then [UInt8.ofNat (0xE0 + n / 4096), tail 6, tail 0]
  else [UInt8.ofNat (0xF0 + n / 262144), tail 12, tail 6, tail 0]

def encode (cs : List Char) : List UInt8 :=
  cs.flatMap encodeChar

/-- The six bits of a continuation byte. -/
def tail? (b : UInt8) : Option Nat :=
  if 0x80 ≤ b.toNat ∧ b.toNat < 0xC0 then some (b.toNat - 0x80) else none

/-- The character of a code point that needs a form of this length. -/
def char? (least n : Nat) : Option Char :=
  if h : n.isValidChar then if least ≤ n then some (Char.ofNatAux n h) else none else none

/-- A character of which some bytes are still owed: how many, the bits so far, and the least
code point that needs a form of this length.
-/
structure Unfinished where
  owed : Nat
  value : Nat
  least : Nat

/-- What a leading byte of a longer form announces. -/
def lead? (b : UInt8) : Option Unfinished :=
  let n := b.toNat
  if n < 0xC0 then none
  else if n < 0xE0 then some ⟨1, n - 0xC0, 0x80⟩
  else if n < 0xF0 then some ⟨2, n - 0xE0, 0x800⟩
  else if n < 0xF8 then some ⟨3, n - 0xF0, 0x10000⟩
  else none

/-- Reads the rest of an unfinished character, if there is one, and then all characters. -/
def decodeFrom? : Option Unfinished → List UInt8 → Option (List Char)
  | none, [] => some []
  | some _, [] => none
  | none, b :: rest =>
    if b.toNat < 0x80 then (decodeFrom? none rest).map (Char.ofNat b.toNat :: ·)
    else (lead? b).bind fun u => decodeFrom? (some u) rest
  | some u, b :: rest =>
    (tail? b).bind fun bits =>
      let value := u.value * 64 + bits
      if u.owed ≤ 1 then
        (char? u.least value).bind fun c => (decodeFrom? none rest).map (c :: ·)
      else decodeFrom? (some ⟨u.owed - 1, value, u.least⟩) rest

/-- Reads all bytes as characters, or none if some byte is out of place. -/
def decode? (bytes : List UInt8) : Option (List Char) :=
  decodeFrom? none bytes

def ofText (s : String) : List UInt8 :=
  encode s.toList

def text? (bytes : List UInt8) : Option String :=
  (decode? bytes).map String.ofList

end CallWatch.Text.Utf8
