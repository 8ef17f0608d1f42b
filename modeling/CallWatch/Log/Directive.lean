import CallWatch.Binary64.Decimal
import CallWatch.Log.Pattern
import CallWatch.Log.Threshold
import CallWatch.Text.Pieces

/-! The directives of a log filter and how they are read.
A directive may name the start of a target, a span in brackets, a field of events in braces
within the brackets, and after an equals sign a threshold.
-/

namespace CallWatch.Log

/-- A field that a directive asks for; the flag tells that it asks for a value too. -/
structure FieldDemand where
  name : String
  valued : Bool
  deriving DecidableEq, Repr

/-- A directive. One with a span is about events inside spans of that name, and one with a
field about events that have it.
-/
structure Directive where
  target : Option String := none
  span : Option String := none
  field : Option FieldDemand := none
  threshold : Threshold := some .trace
  deriving DecidableEq, Repr

/-- Why a directive is not taken. -/
inductive DirectiveFlaw where
  /-- The text is no directive. -/
  | unreadable
  /-- A part of the text would start or end within a character. -/
  | splitsCharacter
  deriving DecidableEq, Repr

/-- A text with which the value of a field is compared: a number or a pattern. -/
def isComparand (s : List Char) : Bool :=
  (Binary64.ofText? s).isSome || isPattern s

/-- The demand of a text: a name and, after an equals sign, a value; what follows a second
equals sign is passed over.
-/
def FieldDemand.ofText? (s : List Char) : Option FieldDemand :=
  match Text.pieces '=' s with
  | name :: value :: _ =>
    if isComparand value then some ⟨String.ofList name, true⟩ else none
  | _ => if s.isEmpty then none else some ⟨String.ofList s, false⟩

/-- A character with which a target or a threshold can start. -/
def startsDirective (c : Char) : Bool :=
  Text.isLetterOrNumber c || c = '-' || c = ':' || c = '_'

/-- Where the reader of a directive stands; `first` is the byte at which the part begins that
it is in.
-/
inductive DirectiveState where
  /-- At the start. -/
  | opening
  /-- In a threshold or a target, which only their end tells apart. -/
  | name
  /-- In the name of a span. -/
  | span (first : Nat)
  /-- In a field. -/
  | field (first : Nat)
  /-- After the brace that closes a field. -/
  | fieldEnd
  /-- After the bracket that closes a span. -/
  | spanEnd
  /-- After the equals sign. -/
  | threshold (first : Nat)
  deriving DecidableEq, Repr

namespace Directive

/-- The part of a text from byte `first` up to byte `last`. -/
def part (whole : List Char) (first last : Nat) : Except DirectiveFlaw (List Char) :=
  match Text.between? first last whole with
  | some piece => .ok piece
  | none => .error .splitsCharacter

def ending (whole : List Char) (first : Nat) : Except DirectiveFlaw (List Char) :=
  part whole first (String.ofList whole).utf8ByteSize

/-- What a part of the text gives, if it gives anything. -/
def given {α : Type} : Option α → Except DirectiveFlaw α
  | some value => .ok value
  | none => .error .unreadable

def step (whole : List Char) (n : Nat) (c : Char) (d : Directive)
    : DirectiveState → Except DirectiveFlaw (DirectiveState × Directive)
  | .opening =>
    if c = '[' then .ok (.span (n + 1), d)
    else if startsDirective c then .ok (.name, d)
    else .error .unreadable
  | .name => do
    if c = '=' then
      return (.threshold (n + 1), { d with target := String.ofList (← part whole 0 n) })
    else if c = '[' then
      return (.span (n + 1), { d with target := String.ofList (← part whole 0 n) })
    else return (.name, d)
  | .span first => do
    if c = ']' then
      return (.spanEnd, { d with span := String.ofList (← part whole first n) })
    else if c = '\x7b' then
      let name ← part whole first n
      let span := if name.isEmpty then none else some (String.ofList name)
      return (.field (n + 1), { d with span := span })
    else return (.span first, d)
  | .field first => do
    if c = '\x7d' then
      let field ← given (FieldDemand.ofText? (← part whole first n))
      return (.fieldEnd, { d with field := field })
    else return (.field first, d)
  | .fieldEnd => if c = ']' then .ok (.spanEnd, d) else .error .unreadable
  | .spanEnd => if c = '=' then .ok (.threshold (n + 1), d) else .error .unreadable
  | .threshold first => .ok (.threshold first, d)

def finish (whole : List Char) (d : Directive)
    : DirectiveState → Except DirectiveFlaw Directive
  | .name => do
    let name ← ending whole 0
    match Threshold.ofText? name with
    | some threshold => return { d with threshold := threshold }
    | none => return { d with target := String.ofList name }
  | .spanEnd => .ok d
  | .threshold first => do
    return { d with threshold := ← given (Threshold.ofEnding? (← ending whole first)) }
  | _ => .error .unreadable

def readFrom (whole : List Char) (state : DirectiveState) (d : Directive) (n : Nat)
    : List Char → Except DirectiveFlaw Directive
  | [] => finish whole d state
  | c :: rest => do
    let (state, d) ← step whole n c d state
    readFrom whole state d (n + c.utf8Size) rest

/-- Reads a directive with blanks around it. The bytes at which its parts begin and end are
counted without the blanks, but the parts are taken out of the text with them: after leading
blanks every part is found so many bytes further to the left.
-/
def ofText (s : List Char) : Except DirectiveFlaw Directive :=
  readFrom s .opening {} 0 (Text.trimBlank s)

end Directive

end CallWatch.Log
