import Enclosure.Text.Digits
import Enclosure.Value

/-!
# Plain data as JSON text

The layout is fixed: every item of a list and every field of a record stands on
a line of its own, two spaces deeper than its surroundings; an empty list or
record is written without a break. Inside a quoted text the quote, the backslash
and the control characters below U+0020 are escaped and nothing else, so a line
break in the output is always layout.
-/

set_option autoImplicit false

namespace Enclosure.Value

/-- A character inside a quoted JSON text. -/
def jsonEscape (c : Char) : List Char :=
  if c = '"' then ['\\', '"']
  else if c = '\\' then ['\\', '\\']
  else if c = '\n' then ['\\', 'n']
  else if c = '\t' then ['\\', 't']
  else if c = '\r' then ['\\', 'r']
  else if c.toNat = 8 then ['\\', 'b']
  else if c.toNat = 12 then ['\\', 'f']
  else if c.toNat < 32 then
    ['\\', 'u', '0', '0', Text.lowerHexDigit (c.toNat / 16), Text.lowerHexDigit (c.toNat % 16)]
  else [c]

/-- A text between quotes, with the escapes it needs. -/
def jsonQuoted (text : String) : List Char :=
  '"' :: text.toList.flatMap jsonEscape ++ ['"']

/-- A line break and the indentation of the line after it. -/
def jsonBreak (depth : Nat) : List Char := '\n' :: List.replicate (2 * depth) ' '

mutual

/-- Data as JSON at a depth of nesting. -/
def jsonChars (depth : Nat) : Value → List Char
  | null => "null".toList
  | bool true => "true".toList
  | bool false => "false".toList
  | number value => (toString value).toList
  | decimal digits => digits.toList
  | text content => jsonQuoted content
  | list [] => ['[', ']']
  | list (item :: items) =>
    '[' :: jsonBreak (depth + 1) ++ jsonChars (depth + 1) item ++ jsonItems (depth + 1) items
      ++ jsonBreak depth ++ [']']
  | record [] => ['\x7b', '\x7d']
  | record ((name, value) :: fields) =>
    '\x7b' :: jsonBreak (depth + 1) ++ jsonQuoted name ++ [':', ' ']
      ++ jsonChars (depth + 1) value ++ jsonFields (depth + 1) fields ++ jsonBreak depth ++ ['\x7d']

/-- The items after the first, each behind a comma. -/
def jsonItems (depth : Nat) : List Value → List Char
  | [] => []
  | item :: items => ',' :: jsonBreak depth ++ jsonChars depth item ++ jsonItems depth items

/-- The fields after the first, each behind a comma. -/
def jsonFields (depth : Nat) : List (String × Value) → List Char
  | [] => []
  | (name, value) :: fields =>
    ',' :: jsonBreak depth ++ jsonQuoted name ++ [':', ' '] ++ jsonChars depth value
      ++ jsonFields depth fields

end

/-- **Data as JSON text.** -/
def json (value : Value) : String := String.ofList (value.jsonChars 0)

end Enclosure.Value
