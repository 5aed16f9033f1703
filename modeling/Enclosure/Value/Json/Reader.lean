import Enclosure.Text.Digits
import Enclosure.Value

/-!
# Plain data from JSON text

The reader takes any JSON text, whatever its layout. A number without fraction
and exponent is an integer, except negative zero, which is not one; every other
number keeps its text. Of two fields of one record with the same name the later
counts.

Every call consumes a character or is followed by one that does, so twice the
number of characters is enough fuel.
-/

set_option autoImplicit false

namespace Enclosure.Value

/-- The text without leading layout. -/
def skipLayout (chars : List Char) : List Char :=
  chars.dropWhile fun c => c == ' ' || c == '\t' || c == '\n' || c == '\r'

/-- The number that four hexadecimal digits write. -/
def readUnit? : List Char → Option (Nat × List Char)
  | a :: b :: c :: d :: rest => do
    let high := 16 * (← Text.hexValue? a) + (← Text.hexValue? b)
    let low := 16 * (← Text.hexValue? c) + (← Text.hexValue? d)
    return (256 * high + low, rest)
  | _ => none

/-- The character after a backslash and `u`: one unit, or two units that form a
surrogate pair. -/
def readUnicode? (chars : List Char) : Option (Char × List Char) := do
  let (unit, rest) ← readUnit? chars
  if unit < 0xD800 || 0xE000 ≤ unit then return (Char.ofNat unit, rest)
  else if 0xDC00 ≤ unit then none
  else
    match rest with
    | '\\' :: 'u' :: more => do
      let (second, rest) ← readUnit? more
      if second < 0xDC00 || 0xE000 ≤ second then none
      else return (Char.ofNat (0x10000 + 1024 * (unit - 0xD800) + (second - 0xDC00)), rest)
    | _ => none

/-- The characters after a backslash. -/
def readEscape? : List Char → Option (Char × List Char)
  | '"' :: rest => some ('"', rest)
  | '\\' :: rest => some ('\\', rest)
  | '/' :: rest => some ('/', rest)
  | 'b' :: rest => some (Char.ofNat 8, rest)
  | 'f' :: rest => some (Char.ofNat 12, rest)
  | 'n' :: rest => some ('\n', rest)
  | 'r' :: rest => some ('\r', rest)
  | 't' :: rest => some ('\t', rest)
  | 'u' :: rest => readUnicode? rest
  | _ => none

/-- The rest of a quoted text, with what was read of it so far in reverse. -/
def readQuoted? : (fuel : Nat) → (reversed chars : List Char) → Option (String × List Char)
  | 0, _, _ => none
  | _ + 1, _, [] => none
  | _ + 1, reversed, '"' :: rest => some (String.ofList reversed.reverse, rest)
  | fuel + 1, reversed, '\\' :: rest => do
    let (c, rest) ← readEscape? rest
    readQuoted? fuel (c :: reversed) rest
  | fuel + 1, reversed, c :: rest => readQuoted? fuel (c :: reversed) rest

/-- The digits at the start of a text, of which there must be one. -/
def readDigits? (chars : List Char) : Option (List Char × List Char) :=
  match chars.span Char.isDigit with
  | ([], _) => none
  | digits => some digits

/-- The fraction at the start of a text, if there is one. -/
def readFraction? : List Char → Option (List Char × List Char)
  | '.' :: rest => do
    let (digits, rest) ← readDigits? rest
    return ('.' :: digits, rest)
  | rest => some ([], rest)

/-- The exponent at the start of a text, if there is one. -/
def readExponent? (chars : List Char) : Option (List Char × List Char) :=
  match chars with
  | mark :: rest =>
    if mark = 'e' ∨ mark = 'E' then
      let (sign, rest) :=
        match rest with
        | '+' :: rest => (['+'], rest)
        | '-' :: rest => (['-'], rest)
        | rest => ([], rest)
      do
        let (digits, rest) ← readDigits? rest
        return (mark :: sign ++ digits, rest)
    else some ([], chars)
  | [] => some ([], [])

/-- The number at the start of a text. -/
def readNumber? (chars : List Char) : Option (Value × List Char) := do
  let (negative, rest) :=
    match chars with
    | '-' :: rest => (true, rest)
    | rest => (false, rest)
  let (whole, rest) ← readDigits? rest
  if 1 < whole.length && whole.head? == some '0' then none
  let (fraction, rest) ← readFraction? rest
  let (exponent, rest) ← readExponent? rest
  let size := Text.decimalValue whole
  if fraction.isEmpty && exponent.isEmpty && !(negative && size == 0) then
    return (.number (if negative then -size else size), rest)
  else
    let sign := if negative then ['-'] else []
    return (.decimal (String.ofList (sign ++ whole ++ fraction ++ exponent)), rest)

/-- Fields with one more, in place of one with the same name. -/
def putField (fields : List (String × Value)) (name : String) (value : Value) :
    List (String × Value) :=
  fields.filter (·.1 != name) ++ [(name, value)]

mutual

/-- The value at the start of a text. -/
def readValue? : (fuel : Nat) → List Char → Option (Value × List Char)
  | 0, _ => none
  | fuel + 1, chars =>
    match skipLayout chars with
    | 'n' :: 'u' :: 'l' :: 'l' :: rest => some (.null, rest)
    | 't' :: 'r' :: 'u' :: 'e' :: rest => some (.bool true, rest)
    | 'f' :: 'a' :: 'l' :: 's' :: 'e' :: rest => some (.bool false, rest)
    | '"' :: rest => do
      let (content, rest) ← readQuoted? fuel [] rest
      return (.text content, rest)
    | '[' :: rest =>
      match skipLayout rest with
      | ']' :: rest => some (.list [], rest)
      | _ => readItems? fuel [] rest
    | '\x7b' :: rest =>
      match skipLayout rest with
      | '\x7d' :: rest => some (.record [], rest)
      | _ => readFields? fuel [] rest
    | other => readNumber? other

/-- The rest of a list, with the items before it in reverse. -/
def readItems? : (fuel : Nat) → List Value → List Char → Option (Value × List Char)
  | 0, _, _ => none
  | fuel + 1, reversed, chars => do
    let (item, rest) ← readValue? fuel chars
    match skipLayout rest with
    | ',' :: rest => readItems? fuel (item :: reversed) rest
    | ']' :: rest => return (.list (item :: reversed).reverse, rest)
    | _ => none

/-- The rest of a record, with the fields before it. -/
def readFields? :
    (fuel : Nat) → List (String × Value) → List Char → Option (Value × List Char)
  | 0, _, _ => none
  | fuel + 1, fields, chars =>
    match skipLayout chars with
    | '"' :: rest => do
      let (name, rest) ← readQuoted? fuel [] rest
      match skipLayout rest with
      | ':' :: rest => do
        let (value, rest) ← readValue? fuel rest
        match skipLayout rest with
        | ',' :: rest => readFields? fuel (putField fields name value) rest
        | '\x7d' :: rest => return (.record (putField fields name value), rest)
        | _ => none
      | _ => none
    | _ => none

end

/-- **The data that a JSON text writes.** -/
def ofJson? (text : String) : Option Value := do
  let chars := text.toList
  let (value, rest) ← readValue? (2 * chars.length + 2) chars
  if (skipLayout rest).isEmpty then return value else none

end Enclosure.Value
