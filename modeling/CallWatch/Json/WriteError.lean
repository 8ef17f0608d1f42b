import CallWatch.Json.Cursor
import CallWatch.Text.Integer
import CallWatch.Word

/-! Why a value is not written as JSON: in words, which may end with a position.
-/

namespace CallWatch.Json

/-- An error of writing: its wording without the position, and the position. -/
structure WriteError where
  cause : String
  pos : Option Position
  deriving DecidableEq, Repr

namespace WriteError

/-- The number that the digits at the end of a reversed text stand for, and what stands
before them.
-/
def numberAtEnd? (reversed : List Char) : Option (Nat × List Char) :=
  let digits := reversed.takeWhile Char.isDigit
  match Text.readNatural (greatestWord 64) digits.reverse with
  | .ok n => some (n, reversed.drop digits.length)
  | .error _ => none

/-- What stands in a reversed text before the words at its end. -/
def beforeWords? (words : String) (reversed : List Char) : Option (List Char) :=
  let words := words.toList.reverse
  if words.isPrefixOf reversed then some (reversed.drop words.length) else none

/-- The position at the end of a reversed text, and what stands before it. -/
def positionAtEnd? (reversed : List Char) : Option (Position × List Char) := do
  let (column, rest) ← numberAtEnd? reversed
  let (line, rest) ← numberAtEnd? (← beforeWords? " column " rest)
  return (⟨line, column⟩, ← beforeWords? " at line " rest)

def ofText (words : String) : WriteError :=
  match positionAtEnd? words.toList.reverse with
  | some (pos, rest) => ⟨String.ofList rest.reverse, some pos⟩
  | none => ⟨words, none⟩

/-- The wording of an error; a position on no line is not told. -/
def message (e : WriteError) : String :=
  match e.pos with
  | none => e.cause
  | some pos =>
    if pos.line = 0 then e.cause
    else
      e.cause ++ " at line " ++ Text.decimal pos.line ++ " column "
        ++ Text.decimal pos.column

end WriteError

end CallWatch.Json
