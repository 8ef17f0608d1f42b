import CallWatch.Word

/-! Binary64 numbers as a sign and the encoding of a magnitude, with exact arithmetic.
Every finite number is an integer multiple of `2 ^ -1074`, so an operation is an exact
quotient of integers followed by one rounding to the nearest number, ties to even.
-/

namespace CallWatch

/-- A binary64 number: its sign and the encoding of its magnitude. The encodings below
`Binary64.infinite` are the finite magnitudes in ascending order, and those above it are no
numbers.
-/
structure Binary64 where
  negative : Bool
  magnitude : Nat
  magnitude_lt : magnitude < twoPow 63
  deriving DecidableEq

namespace Binary64

def infinite : Nat := 0x7FF * twoPow 52

/-- The value of a finite magnitude in units of `2 ^ -1074`. The encoding holds the
significand below `2 ^ 52` and the exponent above; numbers with exponent zero are
subnormal and have no leading one.
-/
def scaled (magnitude : Nat) : Nat :=
  if magnitude < twoPow 52 then magnitude
  else (twoPow 52 + magnitude % twoPow 52) * twoPow (magnitude / twoPow 52 - 1)

/-- The integer nearest to a quotient; a half goes to the even neighbour. -/
def roundHalfEven (num den : Nat) : Nat :=
  let quotient := num / den
  let remainder := num % den
  if 2 * remainder < den then quotient
  else if den < 2 * remainder then quotient + 1
  else quotient + quotient % 2

/-- The magnitude nearest to `num / den`. The quotient in units of `2 ^ -1074` is cut to 53
binary places; the number of places cut is the exponent, and a significand that rounds up
to the next power of two carries into it.
-/
def nearest (num den : Nat) : Nat :=
  let numerator := num * twoPow 1074
  let cut := (numerator / den).log2 - 52
  min infinite (cut * twoPow 52 + roundHalfEven numerator (den * twoPow cut))

/-- The encoding of a nearest magnitude is that of infinity or less. -/
theorem nearest_lt (num den : Nat)
    : nearest num den < twoPow 63 := by
  have := Nat.min_le_left infinite
    ((num * twoPow 1074 / den).log2 - 52
      |> fun cut => cut * twoPow 52 + roundHalfEven (num * twoPow 1074) (den * twoPow cut))
  exact Nat.lt_of_le_of_lt this (by decide)

def ofRatio (negative : Bool) (num den : Nat) : Binary64 :=
  ⟨negative, nearest num den, nearest_lt num den⟩

def ofNat (n : Nat) : Binary64 :=
  ofRatio false n 1

def zero (negative : Bool) : Binary64 :=
  ⟨negative, 0, by decide⟩

def infinity (negative : Bool) : Binary64 :=
  ⟨negative, infinite, by decide⟩

/-- The quiet value that is no number. -/
def nan (negative : Bool) : Binary64 :=
  ⟨negative, infinite + twoPow 51, by decide⟩

def isNaN (x : Binary64) : Bool :=
  infinite < x.magnitude

def isFinite (x : Binary64) : Bool :=
  x.magnitude < infinite

def isInfinite (x : Binary64) : Bool :=
  x.magnitude = infinite

def isZero (x : Binary64) : Bool :=
  x.magnitude = 0

def neg (x : Binary64) : Binary64 :=
  { x with negative := !x.negative }

instance : Inhabited Binary64 := ⟨zero false⟩

/-- The value of a finite number in units of `2 ^ -1074`. -/
def scaledInt (x : Binary64) : Int :=
  if x.negative then -(scaled x.magnitude : Int) else scaled x.magnitude

/-- The rounded sum; a sum of zero is negative only if both summands are. -/
def add (x y : Binary64) : Binary64 :=
  if x.isNaN || y.isNaN then nan false
  else if x.isInfinite then
    if y.isInfinite && x.negative != y.negative then nan false else x
  else if y.isInfinite then y
  else
    let sum := x.scaledInt + y.scaledInt
    let negative := if sum = 0 then x.negative && y.negative else decide (sum < 0)
    ofRatio negative sum.natAbs (twoPow 1074)

def mul (x y : Binary64) : Binary64 :=
  let negative := x.negative != y.negative
  if x.isNaN || y.isNaN then nan false
  else if x.isInfinite || y.isInfinite then
    if x.isZero || y.isZero then nan false else infinity negative
  else ofRatio negative (scaled x.magnitude * scaled y.magnitude) (twoPow 2148)

def div (x y : Binary64) : Binary64 :=
  let negative := x.negative != y.negative
  if x.isNaN || y.isNaN then nan false
  else if x.isInfinite then
    if y.isInfinite then nan false else infinity negative
  else if y.isInfinite then zero negative
  else if y.isZero then
    if x.isZero then nan false else infinity negative
  else ofRatio negative (scaled x.magnitude) (scaled y.magnitude)

/-- The least natural number that is not below `x`, held to `0` and `greatest`; what is no
number counts as zero.
-/
def ceilNat (greatest : Nat) (x : Binary64) : Nat :=
  if x.isNaN || x.negative then 0
  else if x.isInfinite then greatest
  else min greatest ((scaled x.magnitude + (twoPow 1074 - 1)) / twoPow 1074)

/-- The magnitude of a finite number in units of the last of some decimal places, to the
nearest; a half goes to the even neighbour.
-/
def roundTo (places : Nat) (x : Binary64) : Nat :=
  roundHalfEven (scaled x.magnitude * tenPow places) (twoPow 1074)

/-- The rank of a value in the total order: negative values descend by magnitude, positive
ones ascend, negative zero is below zero, and values that are no number stand outside the
infinities.
-/
def rank (x : Binary64) : Int :=
  if x.negative then -(x.magnitude : Int) - 1 else x.magnitude

def totalLE (x y : Binary64) : Bool :=
  x.rank ≤ y.rank

def ascending (xs : List Binary64) : List Binary64 :=
  xs.mergeSort totalLE

end Binary64

end CallWatch
