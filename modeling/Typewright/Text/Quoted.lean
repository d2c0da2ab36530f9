import Typewright.Text.Character

/-!
Texts in quotes as messages show them: quotes and backslashes are escaped, and characters that
would not be seen are written as code points.
-/
namespace Typewright.Text

def codePoint (c : Char) : List Char :=
  "\\u\x7b".toList ++ Nat.toDigits 16 c.toNat ++ ['}']

def visible (c : Char) : List Char :=
  if c = '"' then ['\\', '"']
  else if c = '\\' then ['\\', '\\']
  else if c = '\n' then ['\\', 'n']
  else if c = '\r' then ['\\', 'r']
  else if c = '\t' then ['\\', 't']
  else if c.toNat = 0 then ['\\', '0']
  else if isUnprintable c then codePoint c
  else [c]

def quoted (text : String) : String := "\"" ++ String.ofList (text.toList.flatMap visible) ++ "\""

end Typewright.Text
