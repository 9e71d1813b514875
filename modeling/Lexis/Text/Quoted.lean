import Lexis.Character.Visible

/-!
# Quoted text

A text between double quotes in which every character can be seen. The quote and the backslash are
escaped by a backslash, the common controls have a letter each, and every other character that would
not be seen as itself is written by its code point.
-/

namespace Lexis.Text

open Character

/-- A character written by its code point, in the fewest hexadecimal digits. -/
def codePoint (c : Char) : List Char :=
  ['\\', 'u', '\x7b'] ++ Nat.toDigits 16 c.toNat ++ ['\x7d']

/-- A character as it is written inside quotes. -/
def escape (c : Char) : List Char :=
  if c = '\x00' then ['\\', '0']
  else if c = '\t' then ['\\', 't']
  else if c = '\r' then ['\\', 'r']
  else if c = '\n' then ['\\', 'n']
  else if c = '"' then ['\\', '"']
  else if c = '\\' then ['\\', '\\']
  else if isVisible c then [c]
  else codePoint c

/-- A text between quotes, each character escaped where it has to be. -/
def quote (text : String) : String :=
  String.ofList ('"' :: text.toList.flatMap escape ++ ['"'])

end Lexis.Text
