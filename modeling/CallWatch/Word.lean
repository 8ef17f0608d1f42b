/-! Powers of two and of ten, and the words of a fixed width.
-/

namespace CallWatch

/-- Two to a power: the number of words of so many bits. -/
def twoPow (bits : Nat) : Nat :=
  Nat.pow 2 bits

/-- Ten to a power: the number of values of so many decimal places. -/
def tenPow (places : Nat) : Nat :=
  Nat.pow 10 places

def greatestWord (bits : Nat) : Nat :=
  twoPow bits - 1

end CallWatch
