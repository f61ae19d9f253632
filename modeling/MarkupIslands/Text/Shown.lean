import MarkupIslands.Text.Unprintable

/-!
# Strings in messages

How a message shows a string that it complains about: between double quotes, with the quote, the
backslash and the common controls escaped, and every other character that has no visible form
written by its code.
-/

namespace MarkupIslands.Text

/-- The form of one character. -/
def showChar (c : Char) : List Char :=
  if c = '\x00' then ['\\', '0']
  else if c = '\t' then ['\\', 't']
  else if c = '\r' then ['\\', 'r']
  else if c = '\n' then ['\\', 'n']
  else if c = '\\' then ['\\', '\\']
  else if c = '"' then ['\\', '"']
  else if isUnprintable c then '\\' :: 'u' :: '\x7b' :: Nat.toDigits 16 c.toNat ++ ['\x7d']
  else [c]

/-- The form of a string. -/
def shown (text : String) : String :=
  String.ofList ('"' :: text.toList.flatMap showChar ++ ['"'])

end MarkupIslands.Text
