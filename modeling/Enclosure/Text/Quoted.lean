import Enclosure.Text.Invisible

/-!
# Texts shown for inspection

A text is shown between double quotes, with every character visible: the quote
and the backslash are escaped by a backslash, four control characters by a
letter, and every other character that does not show by its code in braces.
-/

set_option autoImplicit false

namespace Enclosure.Text

/-- A character of a text shown for inspection. -/
def shownChar (c : Char) : List Char :=
  if c = '"' then ['\\', '"']
  else if c = '\\' then ['\\', '\\']
  else if c = '\n' then ['\\', 'n']
  else if c = '\t' then ['\\', 't']
  else if c = '\r' then ['\\', 'r']
  else if c.toNat = 0 then ['\\', '0']
  else if isInvisible c then '\\' :: 'u' :: '\x7b' :: Nat.toDigits 16 c.toNat ++ ['\x7d']
  else [c]

/-- A text shown for inspection. -/
def shown (text : String) : String :=
  String.ofList ('"' :: text.toList.flatMap shownChar ++ ['"'])

end Enclosure.Text
