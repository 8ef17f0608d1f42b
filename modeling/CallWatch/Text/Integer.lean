import CallWatch.Text.Blank

/-! Decimal integers as settings and identifiers write them: an optional sign, then digits.
A reader refuses for one of three causes, and the value it accepts lies in its range.
-/

namespace CallWatch.Text

/-- Why a text is no integer of a range. -/
inductive IntegerFault where
  /-- There is nothing to read. -/
  | empty
  /-- Some character is no digit, or a sign stands alone. -/
  | invalidDigit
  /-- The value lies above the range. -/
  | tooLarge
  /-- The value lies below the range. -/
  | tooSmall
  deriving DecidableEq, Repr

def IntegerFault.message : IntegerFault → String
  | .empty => "cannot parse integer from empty string"
  | .invalidDigit => "invalid digit found in string"
  | .tooLarge => "number too large to fit in target type"
  | .tooSmall => "number too small to fit in target type"

def digitValue? (c : Char) : Option Nat :=
  if '0' ≤ c ∧ c ≤ '9' then some (c.toNat - '0'.toNat) else none

/-- The value of a list of digits, continuing from `value`; none if some character is no
digit. -/
def digitsValue? (value : Nat) : List Char → Option Nat
  | [] => some value
  | c :: rest =>
    match digitValue? c with
    | some digit => digitsValue? (value * 10 + digit) rest
    | none => none

/-- Reads at least one digit with a value of at most `greatest`. The first fault from the
left wins: a value that has grown too large is reported before a later character that is no
digit.
-/
def readDigits (greatest : Nat) (overflow : IntegerFault)
    : Nat → List Char → Except IntegerFault Nat
  | value, [] => .ok value
  | value, c :: rest =>
    match digitValue? c with
    | none => .error .invalidDigit
    | some digit =>
      if greatest < value * 10 + digit then .error overflow
      else readDigits greatest overflow (value * 10 + digit) rest

/-- Reads a natural number of at most `greatest`, with an optional plus sign. -/
def readNatural (greatest : Nat) (s : List Char) : Except IntegerFault Nat :=
  match s with
  | [] => .error .empty
  | ['+'] => .error .invalidDigit
  | '+' :: digits => readDigits greatest .tooLarge 0 digits
  | digits => readDigits greatest .tooLarge 0 digits

/-- Reads an integer between `-least` and `greatest`, with an optional sign. -/
def readInteger (least greatest : Nat) (s : List Char) : Except IntegerFault Int :=
  match s with
  | [] => .error .empty
  | ['+'] => .error .invalidDigit
  | ['-'] => .error .invalidDigit
  | '+' :: digits => (readDigits greatest .tooLarge 0 digits).map Int.ofNat
  | '-' :: digits => (readDigits least .tooSmall 0 digits).map fun n => -(n : Int)
  | digits => (readDigits greatest .tooLarge 0 digits).map Int.ofNat

def decimal (n : Nat) : String :=
  String.ofList (Nat.toDigits 10 n)

/-- The digits of a number, padded with zeros on the left to at least `width`. -/
def padded (width n : Nat) : List Char :=
  let digits := Nat.toDigits 10 n
  List.replicate (width - digits.length) '0' ++ digits

end CallWatch.Text
