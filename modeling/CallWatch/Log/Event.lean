import CallWatch.Text.Pieces

/-! Log events and their lines.
-/

namespace CallWatch.Log

/-- How grave an event is. -/
inductive Level where
  | error
  | warn
  | info
  | debug
  | trace
  deriving DecidableEq, Repr

/-- The place of a level: the gravest comes first. -/
def Level.rank : Level → Nat
  | .error => 1
  | .warn => 2
  | .info => 3
  | .debug => 4
  | .trace => 5

def Level.name : Level → String
  | .error => "ERROR"
  | .warn => "WARN"
  | .info => "INFO"
  | .debug => "DEBUG"
  | .trace => "TRACE"

/-- The value of a field. -/
inductive Value where
  /-- A text in quotes, which holds nothing to escape. -/
  | quoted (text : String)
  /-- A text as it is. -/
  | plain (text : String)
  deriving DecidableEq, Repr

def Value.text : Value → String
  | .quoted text => "\"" ++ text ++ "\""
  | .plain text => text

/-- An event: its level, the part of the program that it comes from, its message and its
fields.
-/
structure Event where
  level : Level
  target : String
  message : String
  fields : List (String × Value)
  deriving DecidableEq, Repr

/-- The line of an event, without the time at which it is logged. -/
def Event.line (e : Event) : String :=
  let fields := e.fields.map fun (name, value) => " " ++ name ++ "=" ++ value.text
  e.level.name ++ " " ++ e.target ++ ": " ++ e.message ++ String.join fields

def withoutReturn (line : List Char) : List Char :=
  if line.getLast? = some '\r' then line.dropLast else line

/-- The lines that an event takes up, because its values may hold newlines. -/
def Event.lines (e : Event) : List String :=
  (Text.pieces '\n' e.line.toList).map fun line => String.ofList (withoutReturn line)

end CallWatch.Log
