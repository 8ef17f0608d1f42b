import CallWatch.Random.Stream

/-! Uniform draws by widening multiplication.
The number of values times a drawn word has the value in its high half; the word is refused
when the low half lies above an acceptance bound that makes all values equally likely.
-/

namespace CallWatch.Random

/-- The width of the words that a draw uses. -/
inductive Width where
  | short
  | long
  deriving DecidableEq, Repr

def Width.modulus : Width → Nat
  | .short => twoPow 32
  | .long => twoPow 64

def Width.draw : Width → Stream → Nat × Stream
  | .short, s => s.word
  | .long, s => s.longWord

/-- How many words in a row a draw refuses before it takes one as it is. Fewer than half of
all words are refused, so a draw never comes that far.
-/
def patience : Nat := 4096

/-- Draws a value below `n` from words whose low half is at most `bound`. -/
def drawWithin (width : Width) (n bound : Nat) : Nat → Stream → Nat × Stream
  | 0, s =>
    let (word, s) := width.draw s
    (n * (word % width.modulus) / width.modulus, s)
  | more + 1, s =>
    let (word, next) := width.draw s
    let product := n * (word % width.modulus)
    if product % width.modulus ≤ bound then (product / width.modulus, next)
    else drawWithin width n bound more next

/-- The bound of a range: the greatest multiple of `n` by a power of two that a word holds,
less one.
-/
def shiftedBound (width : Width) (n : Nat) : Nat :=
  n * twoPow ((width.modulus - 1).log2 - n.log2) - 1

/-- The bound of a small range: all low halves but the remainder that `n` leaves. -/
def exactBound (width : Width) (n : Nat) : Nat :=
  width.modulus - 1 - (width.modulus - n) % n

def below (width : Width) (n : Nat) (s : Stream) : Nat × Stream :=
  drawWithin width n (shiftedBound width n) patience s

def belowSmall (n : Nat) (s : Stream) : Nat × Stream :=
  drawWithin .short n (exactBound .short n) patience s

/-- Draws true with a chance of `threshold` in `2 ^ 64`. -/
def chance (threshold : Nat) (s : Stream) : Bool × Stream :=
  let (word, s) := s.longWord
  (word < threshold, s)

/-- A draw lies in its range, whatever the words are. -/
theorem drawWithin_lt {width : Width} {n bound : Nat} (positive : 0 < n) (fuel : Nat)
    (s : Stream)
    : (drawWithin width n bound fuel s).1 < n := by
  have modulus_pos : 0 < width.modulus := by cases width <;> decide
  have high (word : Nat) : n * (word % width.modulus) / width.modulus < n := by
    rw [Nat.div_lt_iff_lt_mul modulus_pos]
    exact Nat.mul_lt_mul_of_pos_left (Nat.mod_lt _ modulus_pos) positive
  induction fuel generalizing s with
  | zero => exact high _
  | succ fuel ih =>
    simp only [drawWithin]
    split
    · exact high _
    · exact ih _

end CallWatch.Random
