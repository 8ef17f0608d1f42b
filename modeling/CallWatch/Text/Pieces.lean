/-! Taking a list of characters apart: at every mark, or after a number of bytes.
-/

namespace CallWatch.Text

/-- The pieces of a list between its marks; there is one piece more than there are marks. -/
def pieces (mark : Char) : List Char → List (List Char)
  | [] => [[]]
  | c :: rest =>
    if c = mark then [] :: pieces mark rest
    else
      match pieces mark rest with
      | piece :: more => (c :: piece) :: more
      | [] => [[c]]

/-- The characters in the first `n` bytes and the rest; none if the list is shorter or if a
character stands across the cut.
-/
def cut? : Nat → List Char → Option (List Char × List Char)
  | 0, cs => some ([], cs)
  | _ + 1, [] => none
  | n + 1, c :: cs =>
    if c.utf8Size ≤ n + 1 then
      (cut? (n + 1 - c.utf8Size) cs).map fun (front, rest) => (c :: front, rest)
    else none

def between? (first last : Nat) (cs : List Char) : Option (List Char) := do
  let (_, rest) ← cut? first cs
  let (piece, _) ← cut? (last - first) rest
  return piece

end CallWatch.Text
