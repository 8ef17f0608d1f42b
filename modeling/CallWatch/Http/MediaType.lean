import CallWatch.Http.Headers

/-! Media types, as far as it takes to recognise JSON.
A type is a token, a slash, a token and parameters; the second token may carry a suffix
after its last plus sign.
-/

namespace CallWatch.Http

def isTokenChar (c : Char) : Bool :=
  c.isAlphanum || "!#$%&'*+-.^_\x60|~".toList.contains c

/-- A media type in lower case: its type, its subtype without suffix, and the suffix. -/
structure MediaType where
  type : String
  subtype : String
  suffix : Option String
  deriving DecidableEq, Repr

namespace MediaType

/-- Where a reader stands within the parameters. -/
inductive ParameterState where
  /-- Before a name, where spaces may stand. -/
  | before
  /-- Within a name. -/
  | name
  /-- Before a value. -/
  | equals
  /-- Within a value without quotes. -/
  | value
  /-- After an opening quote, where another quote is part of the value. -/
  | opened
  /-- Within a quoted value. -/
  | quoted
  /-- After a closing quote. -/
  | closed

/-- The parameters after the first semicolon are well formed. -/
def parametersOk : ParameterState → List Char → Bool
  | .before, [] => true
  | .before, c :: rest =>
    if c = ' ' then parametersOk .before rest
    else isTokenChar c && parametersOk .name rest
  | .name, [] => false
  | .name, c :: rest =>
    if c = '=' then parametersOk .equals rest
    else isTokenChar c && parametersOk .name rest
  | .equals, [] => true
  | .equals, c :: rest =>
    if c = '"' then parametersOk .opened rest
    else isTokenChar c && parametersOk .value rest
  | .value, [] => true
  | .value, c :: rest =>
    if c = ';' then parametersOk .before rest
    else isTokenChar c && parametersOk .value rest
  | .opened, [] => false
  | .opened, c :: rest => isQuotable c && parametersOk .quoted rest
  | .quoted, [] => false
  | .quoted, c :: rest =>
    if c = '"' then parametersOk .closed rest
    else isQuotable c && parametersOk .quoted rest
  | .closed, [] => true
  | .closed, c :: rest =>
    if c = ';' then parametersOk .before rest
    else c = ' ' && parametersOk .closed rest
where
  /-- A character that may stand between quotes. -/
  isQuotable (c : Char) : Bool :=
    0x20 ≤ c.toNat && c.toNat ≠ 0x7F

/-- Splits a subtype at its last plus sign, unless that is its first character. -/
def splitSuffix (s : List Char) : List Char × Option (List Char) :=
  let after := (s.reverse.takeWhile (· ≠ '+')).reverse
  let before := s.take (s.length - after.length - 1)
  if before.isEmpty then (s, none) else (before, some after)

def ofText? (s : String) : Option MediaType :=
  let lower := fun (cs : List Char) => String.ofList (cs.map Char.toLower)
  let type := s.toList.takeWhile (· ≠ '/')
  match s.toList.dropWhile (· ≠ '/') with
  | [] => none
  | _ :: rest =>
    let whole := rest.takeWhile (· ≠ ';')
    let (subtype, suffix) := splitSuffix whole
    let parameters := (rest.dropWhile (· ≠ ';')).drop 1
    let tokens := !type.isEmpty && type.all isTokenChar && whole.all isTokenChar
    let complete := !whole.isEmpty || !rest.contains ';'
    if tokens && complete && parametersOk .before parameters then
      some ⟨lower type, lower subtype, suffix.map lower⟩
    else none

def isJson (m : MediaType) : Bool :=
  m.type = "application" && (m.subtype = "json" || m.suffix = some "json")

end MediaType

def Headers.announceJson (headers : Headers) : Bool :=
  match (headers.first? "content-type").bind visibleText? |>.bind MediaType.ofText? with
  | some m => m.isJson
  | none => false

end CallWatch.Http
