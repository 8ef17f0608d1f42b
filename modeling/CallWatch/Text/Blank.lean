/-! Blank characters and the trimming of a text at both ends.
Blank is the Unicode property `White_Space`; trimming removes its longest blank opening
and its longest blank ending and nothing in between.
-/

namespace CallWatch.Text

/-- The characters with the Unicode property `White_Space`. -/
def isBlank (c : Char) : Bool :=
  let n := c.toNat
  (9 ≤ n && n ≤ 13) || n = 0x20 || n = 0x85 || n = 0xA0 || n = 0x1680
    || (0x2000 ≤ n && n ≤ 0x200A) || n = 0x2028 || n = 0x2029 || n = 0x202F || n = 0x205F
    || n = 0x3000

/-- Drops the blank characters at the end of a list. -/
def dropBlankEnd (cs : List Char) : List Char :=
  (cs.reverse.dropWhile isBlank).reverse

/-- Drops the blank characters at both ends of a list. -/
def trimBlank (cs : List Char) : List Char :=
  dropBlankEnd (cs.dropWhile isBlank)

def trim (s : String) : String :=
  String.ofList (trimBlank s.toList)

/-- A text of blank characters only, the empty text included. -/
def isAllBlank (s : String) : Bool :=
  s.toList.all isBlank

end CallWatch.Text
