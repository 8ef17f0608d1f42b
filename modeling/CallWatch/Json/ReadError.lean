import CallWatch.Binary64.Decimal
import CallWatch.Json.Cursor
import CallWatch.Json.Value
import CallWatch.Text.Quoted

/-! Why a JSON text does not describe what is read from it: the causes, where they arise and
how they are worded.
-/

namespace CallWatch.Json

/-- What a text has where something else is expected. -/
inductive Found where
  | null
  | bool (value : Bool)
  | integer (value : Int)
  | float (value : Binary64)
  | text (value : String)
  | list
  | object
  deriving DecidableEq

def Found.message : Found → String
  | .null => "null"
  | .bool value => "boolean `" ++ (if value then "true" else "false") ++ "`"
  | .integer value => "integer `" ++ String.ofList (intText value) ++ "`"
  | .float value => "floating point `" ++ String.ofList (renderNumber value) ++ "`"
  | .text value => "string " ++ Text.shown value
  | .list => "sequence"
  | .object => "map"
where
  /-- An integer with its sign. -/
  intText (value : Int) : List Char :=
    if value < 0 then '-' :: Nat.toDigits 10 value.natAbs else Nat.toDigits 10 value.natAbs

/-- Why reading stops. -/
inductive Cause where
  | endInValue
  | endInObject
  | endInList
  | endInText
  | expectedValue
  | expectedWord
  | expectedColon
  | expectedListEnd
  | expectedObjectEnd
  | keyNotText
  | trailingComma
  | trailingCharacters
  | invalidEscape
  | invalidNumber
  | numberOutOfRange
  | controlCharacter
  | loneSurrogate
  | unpairedSurrogate
  | invalidUtf8
  /-- A value has another type than its place. -/
  | invalidType (found : Found) (expected : String)
  /-- An integer lies outside the range of its place. -/
  | invalidValue (found : Int) (expected : String)
  /-- A name is not among the names of the record. -/
  | unknownField (name : String) (expected : List String)
  /-- A name occurs twice. -/
  | duplicateField (name : String)
  deriving DecidableEq

namespace Cause

/-- The cause lies in what the text says and not in its form. -/
def isData : Cause → Bool
  | .invalidType .. => true
  | .invalidValue .. => true
  | .unknownField .. => true
  | .duplicateField _ => true
  | _ => false

def ticked (name : String) : String :=
  "`" ++ name ++ "`"

def message : Cause → String
  | .endInValue => "EOF while parsing a value"
  | .endInObject => "EOF while parsing an object"
  | .endInList => "EOF while parsing a list"
  | .endInText => "EOF while parsing a string"
  | .expectedValue => "expected value"
  | .expectedWord => "expected ident"
  | .expectedColon => "expected `:`"
  | .expectedListEnd => "expected `,` or `]`"
  | .expectedObjectEnd => "expected `,` or `\x7d`"
  | .keyNotText => "key must be a string"
  | .trailingComma => "trailing comma"
  | .trailingCharacters => "trailing characters"
  | .invalidEscape => "invalid escape"
  | .invalidNumber => "invalid number"
  | .numberOutOfRange => "number out of range"
  | .controlCharacter => "control character (\\u0000-\\u001F) found while parsing a string"
  | .loneSurrogate => "lone leading surrogate in hex escape"
  | .unpairedSurrogate => "unexpected end of hex escape"
  | .invalidUtf8 => "invalid unicode code point"
  | .invalidType found expected =>
    "invalid type: " ++ found.message ++ ", expected " ++ expected
  | .invalidValue found expected =>
    "invalid value: " ++ (Found.integer found).message ++ ", expected " ++ expected
  | .unknownField name expected =>
    "unknown field " ++ ticked name ++ ", expected one of "
      ++ ", ".intercalate (expected.map ticked)
  | .duplicateField name => "duplicate field " ++ ticked name

end Cause

/-- The member or the item of a record in which an error arises. -/
inductive Place where
  | member (name : String)
  | item (index : Nat)
  deriving DecidableEq

def Place.message : Place → String
  | .member name => name
  | .item index => "[" ++ Text.decimal index ++ "]"

/-- An error: its cause, the position that it reports, and the place in a record. -/
structure ReadError where
  cause : Cause
  pos : Position
  place : Option Place
  deriving DecidableEq

namespace ReadError

def message (e : ReadError) : String :=
  e.cause.message ++ " at line " ++ Text.decimal e.pos.line ++ " column "
    ++ Text.decimal e.pos.column

/-- The wording of an error with its position, led by its place if it has one. -/
def placedMessage (e : ReadError) : String :=
  match e.place with
  | some place => place.message ++ ": " ++ e.message
  | none => e.message

def within (place : Place) (e : ReadError) : ReadError :=
  { e with place := some place }

end ReadError

/-- Stops with an error at the position read so far. -/
def failHere {α : Type} (cause : Cause) (c : Cursor) : Except ReadError α :=
  .error ⟨cause, c.pos, none⟩

def failNext {α : Type} (cause : Cause) (c : Cursor) : Except ReadError α :=
  .error ⟨cause, c.peekPos, none⟩

end CallWatch.Json
