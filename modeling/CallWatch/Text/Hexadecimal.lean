/-! Hexadecimal digits: read in either case, written in lower case.
-/

namespace CallWatch.Text

def hexValue? (code : Nat) : Option Nat :=
  if 48 ≤ code ∧ code ≤ 57 then some (code - 48)
  else if 65 ≤ code ∧ code ≤ 70 then some (code - 55)
  else if 97 ≤ code ∧ code ≤ 102 then some (code - 87)
  else none

/-- The digits of a number, padded with zeros on the left to at least `width`. -/
def paddedHexadecimal (width n : Nat) : List Char :=
  let digits := Nat.toDigits 16 n
  List.replicate (width - digits.length) '0' ++ digits

end CallWatch.Text
