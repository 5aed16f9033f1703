import Enclosure.Text.Digits
import Enclosure.Yaml.Characters

/-!
# What an unquoted text would be taken for

An unquoted text may be taken for nothing, a truth value or a number. A text
that would be must be quoted to stay a text. Integers may be decimal, or
hexadecimal, octal or binary behind `0x`, `0o` and `0b`, within 128 bits; a
decimal number may have a fraction and an exponent, as long as its value is
below the overflow threshold of 64-bit floating point. Digits behind a leading
zero are no number, but are quoted as well, because other readers take them for
one.
-/

set_option autoImplicit false

namespace Enclosure.Yaml

/-- The text is a spelling of nothing. -/
def isNullText (text : String) : Bool := ["null", "Null", "NULL", "~"].contains text

/-- The text is a spelling of a truth value. -/
def isBoolText (text : String) : Bool :=
  ["true", "True", "TRUE", "false", "False", "FALSE"].contains text

namespace Plain

/-- The value of digits in a base, if there are any and all of them are digits of
that base. -/
def digits? (base : Nat) : List Char → Option Nat
  | [] => none
  | digits => digits.foldlM (fun value c =>
      match Text.hexValue? c with
      | some digit => if digit < base then some (value * base + digit) else none
      | none => none) 0

/-- Split a sign off a text. -/
def splitSign : List Char → Option Char × List Char
  | '+' :: rest => (some '+', rest)
  | '-' :: rest => (some '-', rest)
  | rest => (none, rest)

/-- The text, without its sign, is a zero followed by digits only. -/
def hasLeadingZero (text : List Char) : Bool :=
  match (splitSign text).2 with
  | '0' :: c :: rest => (c :: rest).all Char.isDigit
  | _ => false

/-- The text, without its sign, is an integer of some base; its value. -/
def magnitude? : List Char → Option Nat
  | '0' :: 'x' :: rest => digits? 16 rest
  | '0' :: 'o' :: rest => digits? 8 rest
  | '0' :: 'b' :: rest => digits? 2 rest
  | rest => digits? 10 rest

/-- The text is an integer of at most 128 bits. -/
def isInteger (text : List Char) : Bool :=
  match splitSign text with
  | (some '-', rest) =>
    !hasLeadingZero text && (magnitude? rest).any (· ≤ Nat.pow 2 127)
  | (_, rest) => !hasLeadingZero text && (magnitude? rest).any (· < Nat.pow 2 128)

/-- The least value that 64-bit floating point rounds to infinity. -/
def overflowThreshold : Nat := Nat.pow 2 1024 - Nat.pow 2 970

/-- The number `mantissa * 10 ^ exponent` is below the overflow threshold. The
number of digits settles all but the close cases, so that no huge power is
computed. -/
def isFinite (mantissa : Nat) (exponent : Int) : Bool :=
  if mantissa = 0 then true
  else
    let digits : Int := (Nat.toDigits 10 mantissa).length
    if digits + exponent ≤ 308 then true
    else if 310 < digits + exponent then false
    else
      mantissa * Nat.pow 10 exponent.toNat < overflowThreshold * Nat.pow 10 (-exponent).toNat

/-- The exponent of a decimal number; a number without one has exponent zero. -/
def exponent? : List Char → Option Int
  | [] => some 0
  | c :: rest =>
    if c = 'e' ∨ c = 'E' then
      match splitSign rest with
      | (some '-', digits) => (digits? 10 digits).map fun value => -(value : Int)
      | (_, digits) => (digits? 10 digits).map fun value => (value : Int)
    else none

/-- The text, without its sign, is a decimal number below the overflow threshold. -/
def isUnsignedDecimal (text : List Char) : Bool :=
  let (whole, rest) := text.span Char.isDigit
  let (fraction, rest) :=
    match rest with
    | '.' :: rest => rest.span Char.isDigit
    | rest => ([], rest)
  match digits? 10 (whole ++ fraction), exponent? rest with
  | some mantissa, some exponent => isFinite mantissa (exponent - fraction.length)
  | _, _ => false

/-- The text is a decimal number, an infinity or not-a-number. -/
def isFloat (text : List Char) : Bool :=
  let word := String.ofList text
  if [".nan", ".NaN", ".NAN"].contains word then true
  else
    let (_, rest) := splitSign text
    [".inf", ".Inf", ".INF"].contains (String.ofList rest) || isUnsignedDecimal rest

end Plain

/-- An unquoted text would not be taken for this text, or might not be. -/
def readsAsOther (text : String) : Bool :=
  let chars := text.toList
  text.isEmpty || isNullText text || isBoolText text || Plain.isInteger chars
    || Plain.hasLeadingZero chars || Plain.isFloat chars

end Enclosure.Yaml
