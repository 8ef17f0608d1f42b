import CallWatch.Text.Hidden

/-! Texts quoted for a reader of messages: quotes, backslashes and hidden characters are
escaped, so that the message shows exactly what was there.
-/

namespace CallWatch.Text

def showChar (c : Char) : List Char :=
  if c.toNat = 0 then ['\\', '0']
  else if c.toNat = 9 then ['\\', 't']
  else if c.toNat = 10 then ['\\', 'n']
  else if c.toNat = 13 then ['\\', 'r']
  else if c = '"' then ['\\', '"']
  else if c = '\\' then ['\\', '\\']
  else if c.toNat < 0x7F ∧ 0x20 ≤ c.toNat then [c]
  else if isHidden c then '\\' :: 'u' :: '\x7b' :: (Nat.toDigits 16 c.toNat ++ ['\x7d'])
  else [c]

def shown (s : String) : String :=
  String.ofList ('"' :: (s.toList.flatMap showChar ++ ['"']))

end CallWatch.Text
