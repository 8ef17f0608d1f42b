/-! Positions in a text that is read byte by byte.
-/

namespace CallWatch.Json

/-- A position: the line from one and the number of bytes since its start. -/
structure Position where
  line : Nat
  column : Nat
  deriving DecidableEq, Repr

/-- The position after a byte; a newline starts a line. -/
def Position.after (p : Position) (b : UInt8) : Position :=
  if b = 0x0A then ⟨p.line + 1, 0⟩ else ⟨p.line, p.column + 1⟩

/-- What has been read, as a position, and what has not. -/
structure Cursor where
  pos : Position
  rest : List UInt8
  deriving DecidableEq, Repr

namespace Cursor

def start (bytes : List UInt8) : Cursor :=
  ⟨⟨1, 0⟩, bytes⟩

def peek? (c : Cursor) : Option UInt8 :=
  c.rest.head?

/-- Reads a byte; nothing happens at the end. -/
def next (c : Cursor) : Cursor :=
  match c.rest with
  | [] => c
  | b :: rest => ⟨c.pos.after b, rest⟩

/-- The position of the next byte once read, which errors about that byte report. -/
def peekPos (c : Cursor) : Position :=
  c.next.pos

end Cursor

def isBlankByte (b : UInt8) : Bool :=
  b = 0x20 || b = 0x0A || b = 0x09 || b = 0x0D

def skipBlankFrom (pos : Position) : List UInt8 → Cursor
  | [] => ⟨pos, []⟩
  | b :: rest => if isBlankByte b then skipBlankFrom (pos.after b) rest else ⟨pos, b :: rest⟩

def Cursor.skipBlank (c : Cursor) : Cursor :=
  skipBlankFrom c.pos c.rest

end CallWatch.Json
