import MemoryPane.Text.Hidden

/-!
Quoted text: a text between double quotes in which every character can be told. Quotes and
backslashes are written after a backslash, the common controls by a letter, and every other hidden
character by its number.
-/

namespace MemoryPane.Text

/-- A character as it is written inside quotes. -/
def escape (c : Char) : List Char :=
  if c = '"' then ['\\', '"']
  else if c = '\\' then ['\\', '\\']
  else if c = '\t' then ['\\', 't']
  else if c = '\r' then ['\\', 'r']
  else if c = '\n' then ['\\', 'n']
  else if c = '\x00' then ['\\', '0']
  else if isHidden c then ['\\', 'u', '\x7b'] ++ Nat.toDigits 16 c.toNat ++ ['\x7d']
  else [c]

def quote (text : String) : String :=
  String.ofList ('"' :: text.toList.flatMap escape ++ ['"'])

end MemoryPane.Text
