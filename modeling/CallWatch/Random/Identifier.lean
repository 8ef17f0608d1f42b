import CallWatch.Random.Stream
import CallWatch.Text.Hexadecimal

/-! Random identifiers: 122 random bits and six fixed ones that tell the version and the
variant, in five groups of hexadecimal digits.
-/

namespace CallWatch.Random

/-- The groups of an identifier with the number of their digits, from two random words. -/
def identifierGroups (high low : Nat) : List (Nat × Nat) :=
  [ (8, high / twoPow 32 % twoPow 32),
    (4, high / twoPow 16 % twoPow 16),
    (4, 0x4000 + high % twoPow 12),
    (4, 0x8000 + low / twoPow 48 % twoPow 14),
    (12, low % twoPow 48) ]

def identifier (s : Stream) : String × Stream :=
  let (high, s) := s.longWord
  let (low, s) := s.longWord
  let groups := identifierGroups high low
  ("-".intercalate
      (groups.map fun (width, value) => String.ofList (Text.paddedHexadecimal width value)),
    s)

end CallWatch.Random
