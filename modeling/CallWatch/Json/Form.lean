import CallWatch.Json.TextReader
import CallWatch.Json.Value

/-! What a JSON text says: the values of the standard grammar, with numbers as they are
written.
The reader takes every text of the grammar and no other, whoever wrote it. It is what a
written line can be compared with.
-/

namespace CallWatch.Json

/-- A JSON value as a text shows it. -/
inductive Form where
  | null
  | bool (value : Bool)
  | number (token : List Char)
  | text (value : String)
  | list (items : List Form)
  | object (members : List (String × Form))
  deriving Inhabited

def isBlankChar (c : Char) : Bool :=
  c = ' ' || c = '\n' || c = '\t' || c = '\r'

def afterWord? : List Char → List Char → Option (List Char)
  | [], cs => some cs
  | _ :: _, [] => none
  | expected :: word, c :: cs => if c = expected then afterWord? word cs else none

-----------------------------------------------------------------------------------------
-- Texts
-----------------------------------------------------------------------------------------

def shortForm? (c : Char) : Option Char :=
  if c = '"' then some '"'
  else if c = '\\' then some '\\'
  else if c = '/' then some '/'
  else if c = 'b' then some '\x08'
  else if c = 'f' then some '\x0c'
  else if c = 'n' then some '\n'
  else if c = 'r' then some '\r'
  else if c = 't' then some '\t'
  else none

/-- The value of four hexadecimal digits, and what follows them. -/
def fourDigits? : List Char → Option (Nat × List Char)
  | a :: b :: c :: d :: rest => do
    let a ← Text.hexValue? a.toNat
    let b ← Text.hexValue? b.toNat
    let c ← Text.hexValue? c.toNat
    let d ← Text.hexValue? d.toNat
    return (((a * 16 + b) * 16 + c) * 16 + d, rest)
  | _ => none

/-- The character of an escape by code after its mark. A leading surrogate has its trailing
one in a second escape.
-/
def codeEscape? (cs : List Char) : Option (Char × List Char) := do
  let (n, rest) ← fourDigits? cs
  if isTrailing n then none
  else if isLeading n then
    let rest ← afterWord? ['\\', 'u'] rest
    let (low, rest) ← fourDigits? rest
    if isTrailing low then
      return (Char.ofNat ((n - 0xD800) * 0x400 + (low - 0xDC00) + 0x10000), rest)
    else none
  else return (Char.ofNat n, rest)

/-- The character that an escape stands for after its backslash. -/
def escaped? : List Char → Option (Char × List Char)
  | [] => none
  | c :: rest => if c = 'u' then codeEscape? rest else (shortForm? c).map (·, rest)

/-- The character of a text that is written from `c` on, which is no quote. -/
def character? (c : Char) (rest : List Char) : Option (Char × List Char) :=
  if c = '\\' then escaped? rest else if c.toNat < 0x20 then none else some (c, rest)

/-- The characters of a text after its opening quote, and what follows the closing one. Every
character takes one of the text, so the length and one are fuel enough.
-/
def characters? : Nat → List Char → Option (List Char × List Char)
  | 0, _ => none
  | _ + 1, [] => none
  | fuel + 1, c :: rest =>
    if c = '"' then some ([], rest)
    else
      (character? c rest).bind fun (c, rest) =>
        (characters? fuel rest).map fun (more, rest) => (c :: more, rest)

/-- A text after its opening quote, and what follows it. -/
def quoted? (cs : List Char) : Option (String × List Char) :=
  (characters? (cs.length + 1) cs).map fun (chars, rest) => (String.ofList chars, rest)

-----------------------------------------------------------------------------------------
-- Numbers
-----------------------------------------------------------------------------------------

def isNumberChar (c : Char) : Bool :=
  c.isDigit || c = '-' || c = '+' || c = '.' || c = 'e' || c = 'E'

def isDigits (cs : List Char) : Bool :=
  !cs.isEmpty && cs.all Char.isDigit

/-- The digits before the point: a zero stands only alone. -/
def isWhole (cs : List Char) : Bool :=
  isDigits cs && (cs.length = 1 || cs.head? ≠ some '0')

/-- An exponent after its mark: digits with an optional sign. -/
def isExponent : List Char → Bool
  | [] => false
  | c :: rest => if c = '+' || c = '-' then isDigits rest else isDigits (c :: rest)

/-- The end of a number after its digits: nothing or an exponent. -/
def endsNumber : List Char → Bool
  | [] => true
  | c :: rest => (c = 'e' || c = 'E') && isExponent rest

/-- What follows the digits before the point. -/
def followsWhole : List Char → Bool
  | [] => true
  | c :: rest =>
    if c = '.' then
      isDigits (rest.takeWhile Char.isDigit) && endsNumber (rest.dropWhile Char.isDigit)
    else endsNumber (c :: rest)

def isUnsigned (cs : List Char) : Bool :=
  isWhole (cs.takeWhile Char.isDigit) && followsWhole (cs.dropWhile Char.isDigit)

def isNumber : List Char → Bool
  | [] => false
  | c :: rest => if c = '-' then isUnsigned rest else isUnsigned (c :: rest)

-----------------------------------------------------------------------------------------
-- Values
-----------------------------------------------------------------------------------------

/-- A value without others in it, and what follows it; the blanks before it are skipped. -/
def scalar? (cs : List Char) : Option (Form × List Char) :=
  match cs with
  | [] => none
  | c :: rest =>
    if c = '"' then (quoted? rest).map fun (s, rest) => (.text s, rest)
    else if c = 'n' then (afterWord? ['u', 'l', 'l'] rest).map (.null, ·)
    else if c = 't' then (afterWord? ['r', 'u', 'e'] rest).map (.bool true, ·)
    else if c = 'f' then (afterWord? ['a', 'l', 's', 'e'] rest).map (.bool false, ·)
    else
      let token := cs.takeWhile isNumberChar
      if isNumber token then some (.number token, cs.dropWhile isNumberChar) else none

/-- The name of a member with its colon, and what follows them. -/
def name? (cs : List Char) : Option (String × List Char) := do
  let rest ← afterWord? ['"'] (cs.dropWhile isBlankChar)
  let (name, rest) ← quoted? rest
  let rest ← afterWord? [':'] (rest.dropWhile isBlankChar)
  return (name, rest)

mutual

/-- A value and what follows it. Every two steps read a character, so twice the length and
two are fuel enough.
-/
def value? : Nat → List Char → Option (Form × List Char)
  | 0, _ => none
  | fuel + 1, cs =>
    let cs := cs.dropWhile isBlankChar
    match cs with
    | [] => none
    | c :: rest =>
      if c = '[' then
        match afterWord? [']'] (rest.dropWhile isBlankChar) with
        | some rest => some (.list [], rest)
        | none => (items? fuel rest).map fun (items, rest) => (.list items, rest)
      else if c = '\x7b' then
        match afterWord? ['\x7d'] (rest.dropWhile isBlankChar) with
        | some rest => some (.object [], rest)
        | none => (members? fuel rest).map fun (members, rest) => (.object members, rest)
      else scalar? cs

/-- The items of a list after its bracket, at least one, and what follows the list. -/
def items? : Nat → List Char → Option (List Form × List Char)
  | 0, _ => none
  | fuel + 1, cs => do
    let (item, rest) ← value? fuel cs
    match rest.dropWhile isBlankChar with
    | [] => none
    | c :: rest =>
      if c = ']' then some ([item], rest)
      else if c = ',' then
        let (more, rest) ← items? fuel rest
        some (item :: more, rest)
      else none

/-- The members of an object after its brace, at least one, and what follows the object. -/
def members? : Nat → List Char → Option (List (String × Form) × List Char)
  | 0, _ => none
  | fuel + 1, cs => do
    let (name, rest) ← name? cs
    let (value, rest) ← value? fuel rest
    match rest.dropWhile isBlankChar with
    | [] => none
    | c :: rest =>
      if c = '\x7d' then some ([(name, value)], rest)
      else if c = ',' then
        let (more, rest) ← members? fuel rest
        some ((name, value) :: more, rest)
      else none

end

/-- What a whole text says, if it is one value of the grammar. -/
def form? (line : String) : Option Form := do
  let cs := line.toList
  let (form, rest) ← value? (2 * cs.length + 2) cs
  if rest.all isBlankChar then some form else none

/-- The member of a name in an object; the last one of several counts. -/
def Form.member? (name : String) : Form → Option Form
  | .object members => members.reverse.lookup name
  | _ => none

def Form.text? : Form → Option String
  | .text value => some value
  | _ => none

def textMember? (name line : String) : Option String :=
  (form? line).bind fun form => (form.member? name).bind Form.text?

-----------------------------------------------------------------------------------------
-- The form of a value
-----------------------------------------------------------------------------------------

/-- How a number is shown: what is not finite is null. -/
def numberForm (x : Binary64) : Form :=
  match numberLayout.text? x with
  | some token => .number token
  | none => .null

mutual

/-- What the written form of a value says. -/
def form : Json → Form
  | .null => .null
  | .bool value => .bool value
  | .natural n => .number (Nat.toDigits 10 n)
  | .number x => numberForm x
  | .text s => .text s
  | .list items => .list (itemForms items)
  | .object members => .object (memberForms members)

def itemForms : List Json → List Form
  | [] => []
  | item :: rest => form item :: itemForms rest

def memberForms : List (String × Json) → List (String × Form)
  | [] => []
  | (name, value) :: rest => (name, form value) :: memberForms rest

end

end CallWatch.Json
