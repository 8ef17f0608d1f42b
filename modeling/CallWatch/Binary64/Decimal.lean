import CallWatch.Binary64.Basic
import CallWatch.Text.Integer

/-! Decimal numbers and binary64 numbers.
`ofDecimal` rounds a decimal number once; `shortest` gives the decimal number with the
fewest digits among those that round back, the nearest of these, with a tie to the even
digit.
-/

namespace CallWatch.Binary64

/-- The decimal number `digits * 10 ^ exponent`. -/
structure Decimal where
  digits : Nat
  exponent : Int
  deriving DecidableEq, Repr

/-- The number nearest to a signed decimal number. An exponent outside the range of all
binary64 numbers is held to that range first, where the result is already infinite or zero.
-/
def ofDecimal (negative : Bool) (d : Decimal) : Binary64 :=
  if 0 ≤ d.exponent then ofRatio negative (d.digits * tenPow (min d.exponent.toNat 400)) 1
  else ofRatio negative d.digits (tenPow (min (-d.exponent).toNat (d.digits.log2 + 400)))

/-- The numbers that round to one magnitude, in units of `2 ^ -1075`: they lie between
`low` and `high`, the ends included when `closed`, and `value` is the magnitude itself.
-/
structure Interval where
  low : Nat
  value : Nat
  high : Nat
  closed : Bool

/-- The interval of a magnitude: its ends lie half way to the two neighbours, and belong to
it when its significand is even.
-/
def Interval.of (magnitude : Nat) : Interval where
  low := scaled (magnitude - 1) + scaled magnitude
  value := 2 * scaled magnitude
  high := scaled magnitude + scaled (magnitude + 1)
  closed := magnitude % 2 = 0

/-- A decimal grid `10 ^ exponent` as a quotient: a point `c` of the grid has the value
`c * unit / (scale * 2 ^ 1075)`.
-/
structure Grid where
  unit : Nat
  scale : Nat

def Grid.of (exponent : Int) : Grid where
  unit := twoPow 1075 * tenPow exponent.toNat
  scale := tenPow (-exponent).toNat

/-- A point of a grid rounds to the magnitude of an interval. -/
def Interval.holds (i : Interval) (g : Grid) (point : Nat) : Bool :=
  let x := point * g.unit
  if i.closed then i.low * g.scale ≤ x && x ≤ i.high * g.scale
  else i.low * g.scale < x && x < i.high * g.scale

/-- The point of a grid nearest to the magnitude among its two neighbours that round to
it. -/
def Interval.pick? (i : Interval) (g : Grid) : Option Nat :=
  let value := i.value * g.scale
  let below := value / g.unit
  match i.holds g below, i.holds g (below + 1) with
  | true, true => some (roundHalfEven value g.unit)
  | true, false => some below
  | false, true => some (below + 1)
  | false, false => none

/-- The exponent of the leading digit of an interval's value. -/
def Interval.leading (i : Interval) : Int :=
  if twoPow 1075 ≤ i.value then (Nat.toDigits 10 (i.value / twoPow 1075)).length - 1
  else -(Nat.toDigits 10 ((twoPow 1075 + i.value - 1) / i.value - 1)).length

/-- The first grid, from coarse to fine, with a point that rounds to the magnitude. -/
def Interval.search (i : Interval) (exponent : Int) : Nat → Decimal
  | 0 => ⟨0, 0⟩
  | more + 1 =>
    match i.pick? (Grid.of exponent) with
    | some point => ⟨point, exponent⟩
    | none => i.search (exponent - 1) more

/-- A decimal number without zeros at the end of its digits. -/
def Decimal.strip (d : Decimal) : Decimal :=
  if d.digits ≠ 0 ∧ d.digits % 10 = 0 then strip ⟨d.digits / 10, d.exponent + 1⟩ else d
termination_by d.digits
decreasing_by omega

/-- The decimal number with the fewest digits that rounds to a finite magnitude other than
zero. Seventeen digits always suffice.
-/
def shortest (magnitude : Nat) : Decimal :=
  let i := Interval.of magnitude
  (i.search i.leading 17).strip

/-- How a decimal number is laid out. The point is written in its place when it stands
between `leastPoint` and `greatestPoint` digits after the first digit's left edge; otherwise
the number has one digit before the point and a signed exponent.
-/
structure Layout where
  leastPoint : Int
  greatestPoint : Int
  deriving DecidableEq, Repr

def Layout.exponentText (exponent : Int) : List Char :=
  (if exponent < 0 then '-' else '+') :: Nat.toDigits 10 exponent.natAbs

def Layout.write (layout : Layout) (d : Decimal) : List Char :=
  let digits := Nat.toDigits 10 d.digits
  let point := digits.length + d.exponent
  if layout.leastPoint ≤ point ∧ point ≤ layout.greatestPoint then
    if 0 ≤ d.exponent then digits ++ List.replicate d.exponent.toNat '0' ++ ['.', '0']
    else if 0 < point then digits.take point.toNat ++ '.' :: digits.drop point.toNat
    else '0' :: '.' :: (List.replicate (-point).toNat '0' ++ digits)
  else
    match digits with
    | [] => []
    | [single] => single :: 'e' :: exponentText (point - 1)
    | first :: rest => first :: '.' :: (rest ++ 'e' :: exponentText (point - 1))

/-- The text of a finite number; none for infinities and for what is no number. -/
def Layout.text? (layout : Layout) (x : Binary64) : Option (List Char) :=
  if x.isFinite then
    let body :=
      if x.isZero then ['0', '.', '0'] else layout.write (shortest x.magnitude)
    some (if x.negative then '-' :: body else body)
  else none

private def lower (s : List Char) : List Char :=
  s.map Char.toLower

/-- Reads the exponent after its mark: an optional sign and at least one digit. -/
def exponent? : List Char → Option Int
  | [] => none
  | ['+'] => none
  | ['-'] => none
  | '-' :: digits => (Text.digitsValue? 0 digits).map fun n => -(n : Int)
  | '+' :: digits => (Text.digitsValue? 0 digits).map Int.ofNat
  | digits => (Text.digitsValue? 0 digits).map Int.ofNat

/-- Reads digits with an optional point and an optional exponent; there is at least one
digit before the exponent.
-/
def decimal? (s : List Char) : Option Decimal :=
  let isMark := fun c => c = 'e' || c = 'E'
  let mantissa := s.takeWhile fun c => !isMark c
  let whole := mantissa.takeWhile (· ≠ '.')
  let fraction := (mantissa.dropWhile (· ≠ '.')).drop 1
  let exponent :=
    match s.dropWhile fun c => !isMark c with
    | [] => some 0
    | _ :: rest => exponent? rest
  if whole.isEmpty && fraction.isEmpty then none
  else do
    let digits ← Text.digitsValue? 0 (whole ++ fraction)
    let exponent ← exponent
    return ⟨digits, exponent - fraction.length⟩

private def unsigned? (negative : Bool) (s : List Char) : Option Binary64 :=
  if lower s = "nan".toList then some (nan negative)
  else if lower s = "inf".toList || lower s = "infinity".toList then some (infinity negative)
  else (decimal? s).map (ofDecimal negative)

/-- Reads the text of a number: an optional sign, then digits, an infinity or the word for
what is no number.
-/
def ofText? : List Char → Option Binary64
  | '-' :: rest => unsigned? true rest
  | '+' :: rest => unsigned? false rest
  | s => unsigned? false s

end CallWatch.Binary64
