import CallWatch.Binary64.Decimal

/-! JSON values and their compact written form.
Members and items are written in their order without blanks; a text escapes the quote, the
backslash and the characters below a space and nothing else, so that a written value is one
line.
-/

namespace CallWatch

/-- A JSON value. Counts are kept apart from floating point numbers; members keep their
order.
-/
inductive Json where
  | null
  | bool (value : Bool)
  | natural (value : Nat)
  | number (value : Binary64)
  | text (value : String)
  | list (items : List Json)
  | object (members : List (String × Json))
  deriving Inhabited

namespace Json

/-- Numbers are positional from `0.00001` and below `10 ^ 16`. -/
def numberLayout : Binary64.Layout := ⟨-4, 16⟩

/-- The digit of a value below sixteen, in lower case. -/
def hexDigit (n : Nat) : Char :=
  if n < 10 then Char.ofNat (48 + n) else Char.ofNat (87 + n)

def escape (c : Char) : List Char :=
  if c = '"' then ['\\', '"']
  else if c = '\\' then ['\\', '\\']
  else if c.toNat = 0x08 then ['\\', 'b']
  else if c.toNat = 0x09 then ['\\', 't']
  else if c.toNat = 0x0A then ['\\', 'n']
  else if c.toNat = 0x0C then ['\\', 'f']
  else if c.toNat = 0x0D then ['\\', 'r']
  else if c.toNat < 0x20 then
    ['\\', 'u', '0', '0', hexDigit (c.toNat / 16), hexDigit (c.toNat % 16)]
  else [c]

def quote (s : String) : List Char :=
  '"' :: (s.toList.flatMap escape ++ ['"'])

/-- A floating point number; what is not finite is null. -/
def renderNumber (x : Binary64) : List Char :=
  (numberLayout.text? x).getD ['n', 'u', 'l', 'l']

mutual

def render : Json → List Char
  | .null => ['n', 'u', 'l', 'l']
  | .bool true => ['t', 'r', 'u', 'e']
  | .bool false => ['f', 'a', 'l', 's', 'e']
  | .natural n => Nat.toDigits 10 n
  | .number x => renderNumber x
  | .text s => quote s
  | .list [] => ['[', ']']
  | .list (item :: rest) => '[' :: (render item ++ renderItems rest)
  | .object [] => ['\x7b', '\x7d']
  | .object ((name, value) :: rest) =>
    '\x7b' :: (quote name ++ ':' :: (render value ++ renderMembers rest))

def renderItems : List Json → List Char
  | [] => [']']
  | item :: rest => ',' :: (render item ++ renderItems rest)

def renderMembers : List (String × Json) → List Char
  | [] => ['\x7d']
  | (name, value) :: rest => ',' :: (quote name ++ ':' :: (render value ++ renderMembers rest))

end

def line (value : Json) : String :=
  String.ofList value.render

end Json

end CallWatch
