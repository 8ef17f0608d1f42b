import CallWatch.Word

/-! A deterministic stream of random words: the ChaCha cipher with twelve rounds, a 64-bit
block counter from zero and a zero nonce, keyed from one 64-bit seed.
-/

namespace CallWatch.Random

/-- Four words that are mixed with one another. -/
structure Quad where
  a : UInt32
  b : UInt32
  c : UInt32
  d : UInt32
  deriving DecidableEq, Repr, Inhabited

/-- Rotates a word to the left by less than its width. -/
def rotateLeft (x : UInt32) (n : UInt32) : UInt32 :=
  (x <<< n) ||| (x >>> (32 - n))

def Quad.mix (q : Quad) : Quad :=
  let a := q.a + q.b
  let d := rotateLeft (q.d ^^^ a) 16
  let c := q.c + d
  let b := rotateLeft (q.b ^^^ c) 12
  let a := a + b
  let d := rotateLeft (d ^^^ a) 8
  let c := c + d
  let b := rotateLeft (b ^^^ c) 7
  ⟨a, b, c, d⟩

def Quad.add (q r : Quad) : Quad :=
  ⟨q.a + r.a, q.b + r.b, q.c + r.c, q.d + r.d⟩

/-- Sixteen words as the four columns of a square. -/
structure Square where
  first : Quad
  second : Quad
  third : Quad
  fourth : Quad
  deriving DecidableEq, Repr, Inhabited

namespace Square

def mixColumns (s : Square) : Square :=
  ⟨s.first.mix, s.second.mix, s.third.mix, s.fourth.mix⟩

/-- The diagonals as columns. -/
def toDiagonals (s : Square) : Square where
  first := ⟨s.first.a, s.second.b, s.third.c, s.fourth.d⟩
  second := ⟨s.second.a, s.third.b, s.fourth.c, s.first.d⟩
  third := ⟨s.third.a, s.fourth.b, s.first.c, s.second.d⟩
  fourth := ⟨s.fourth.a, s.first.b, s.second.c, s.third.d⟩

/-- The square whose diagonals are the columns of `s`. -/
def ofDiagonals (s : Square) : Square where
  first := ⟨s.first.a, s.fourth.b, s.third.c, s.second.d⟩
  second := ⟨s.second.a, s.first.b, s.fourth.c, s.third.d⟩
  third := ⟨s.third.a, s.second.b, s.first.c, s.fourth.d⟩
  fourth := ⟨s.fourth.a, s.third.b, s.second.c, s.first.d⟩

/-- Two rounds: all columns, then all diagonals. -/
def doubleRound (s : Square) : Square :=
  s.mixColumns.toDiagonals.mixColumns.ofDiagonals

def add (s t : Square) : Square :=
  ⟨s.first.add t.first, s.second.add t.second, s.third.add t.third, s.fourth.add t.fourth⟩

def words (s : Square) : List UInt32 :=
  [ s.first.a, s.second.a, s.third.a, s.fourth.a,
    s.first.b, s.second.b, s.third.b, s.fourth.b,
    s.first.c, s.second.c, s.third.c, s.fourth.c,
    s.first.d, s.second.d, s.third.d, s.fourth.d ]

end Square

/-- The key of a stream in two halves of four words. -/
structure Key where
  low : Quad
  high : Quad
  deriving DecidableEq, Repr, Inhabited

def Key.start (k : Key) (counter : UInt64) : Square where
  first := ⟨0x61707865, k.low.a, k.high.a, counter.toUInt32⟩
  second := ⟨0x3320646E, k.low.b, k.high.b, (counter >>> 32).toUInt32⟩
  third := ⟨0x79622D32, k.low.c, k.high.c, 0⟩
  fourth := ⟨0x6B206574, k.low.d, k.high.d, 0⟩

def Key.block (k : Key) (counter : UInt64) : List UInt32 :=
  let start := k.start counter
  ((Nat.repeat Square.doubleRound 6 start).add start).words

/-- One step of the seed sequence: a linear congruence whose high bits choose the rotation of
a shifted mixture of its bits.
-/
def seedStep (state : UInt64) : UInt32 × UInt64 :=
  let state := state * 6364136223846793005 + 11634580027462260723
  let mixed := (((state >>> 18) ^^^ state) >>> 27).toUInt32
  let places := (state >>> 59).toUInt32
  ((mixed >>> places) ||| (mixed <<< ((32 - places) % 32)), state)

def seedQuad (state : UInt64) : Quad × UInt64 :=
  let (a, state) := seedStep state
  let (b, state) := seedStep state
  let (c, state) := seedStep state
  let (d, state) := seedStep state
  (⟨a, b, c, d⟩, state)

def Key.ofSeed (seed : UInt64) : Key :=
  let (low, state) := seedQuad seed
  let (high, _) := seedQuad state
  ⟨low, high⟩

/-- A stream: its key, the counter of the next block, and the words of the current block
that have not been drawn.
-/
structure Stream where
  key : Key
  counter : UInt64
  ready : List UInt32
  deriving Inhabited

namespace Stream

def ofSeed (seed : Nat) : Stream :=
  ⟨Key.ofSeed (UInt64.ofNat seed), 0, []⟩

def word (s : Stream) : Nat × Stream :=
  match s.ready with
  | w :: rest => (w.toNat, { s with ready := rest })
  | [] =>
    match s.key.block s.counter with
    | w :: rest => (w.toNat, ⟨s.key, s.counter + 1, rest⟩)
    | [] => (0, s)

/-- Draws a word of 64 bits, its low half first. -/
def longWord (s : Stream) : Nat × Stream :=
  let (low, s) := s.word
  let (high, s) := s.word
  (high * twoPow 32 + low, s)

end Stream

end CallWatch.Random
