import Enclosure.Text.Digits
import Enclosure.Yaml.Cursor
import Enclosure.Yaml.Token

/-!
# Anchors, tags and directives

An anchor names a node and a reference repeats it. A tag is written in full
between angle brackets, or as a handle and the rest of the tag, with a percent
sign and two digits for an octet; directives at the head of a document declare
handles and the version of the format.
-/

set_option autoImplicit false

namespace Enclosure.Yaml

/-- Read the name of an anchor or a reference behind its indicator. -/
def anchorName (cursor : Cursor) : Except Problem (String × Cursor) :=
  let (name, after) := (cursor.skip 1).run isNameChar
  let ends := atSpace after.rest || after.rest.head?.any ("?:,]\x7d%@`".toList.contains ·)
  if !name.isEmpty && ends then .ok (String.ofList name, after) else .error .badAnchor

namespace Tag

/-- The character may be part of a tag; some more may between angle brackets. -/
def isTagChar (verbatim : Bool) (c : Char) : Bool :=
  isNameChar c || ";/?:@&=+$.%!~*'()".toList.contains c
    || (verbatim && ",[]".toList.contains c)

/-- An octet written as a percent sign and two hexadecimal digits. -/
def octet? : List Char → Option UInt8
  | '%' :: high :: low :: _ => do
    let high ← Text.hexValue? high
    let low ← Text.hexValue? low
    return .ofNat (high * 16 + low)
  | _ => none

/-- How many octets belong to a character, by the first of them. -/
def octetCount? (first : UInt8) : Option Nat :=
  if first < 0x80 then some 1
  else if 0xc0 ≤ first ∧ first < 0xe0 then some 2
  else if 0xe0 ≤ first ∧ first < 0xf0 then some 3
  else if 0xf0 ≤ first ∧ first < 0xf8 then some 4
  else none

/-- The octets of a character after the first. -/
def trailingOctets? : (count : Nat) → List Char → Option (List UInt8)
  | 0, _ => some []
  | count + 1, text => do
    let octet ← octet? text
    if 0x80 ≤ octet ∧ octet < 0xc0 then
      return octet :: (← trailingOctets? count (text.drop 3))
    else none

/-- The octets that a text starts with, all that belong to one character. What
the character is plays no part, so there may be none with these octets. -/
def escaped? (text : List Char) : Option (List UInt8) := do
  let first ← octet? text
  let count ← octetCount? first
  return first :: (← trailingOctets? (count - 1) (text.drop 3))

/-- Read the octets of a tag. -/
def uriOctets (verbatim : Bool) : (fuel : Nat) → Cursor → List UInt8 →
    Except Problem (List UInt8 × Cursor)
  | 0, cursor, octets => .ok (octets, cursor)
  | fuel + 1, cursor, octets =>
    match cursor.rest with
    | [] => .ok (octets, cursor)
    | c :: _ =>
      if c = '%' then
        match escaped? cursor.rest with
        | none => .error .badTag
        | some more =>
          uriOctets verbatim fuel (cursor.skip (3 * more.length)) (octets ++ more)
      else if isTagChar verbatim c then
        uriOctets verbatim fuel (cursor.skip 1) (octets ++ String.utf8EncodeChar c)
      else .ok (octets, cursor)

/-- Read a tag behind a head that is already read. One of the two must hold
something. -/
def uri (verbatim : Bool) (head : List Char) (cursor : Cursor) :
    Except Problem (Tag × Cursor) := do
  let (octets, after) ← uriOctets verbatim cursor.rest.length cursor []
  if head.isEmpty && octets.isEmpty then throw .badTag
  else return (.ofOctets ((head.drop 1).flatMap String.utf8EncodeChar ++ octets), after)

/-- Read a tag handle: an exclamation mark, or a name between two. -/
def handle (cursor : Cursor) : Except Problem (List Char × Cursor) :=
  match cursor.rest with
  | '!' :: _ =>
    let (name, after) := (cursor.skip 1).run isNameChar
    if after.sees '!' then .ok ('!' :: name ++ ['!'], after.skip 1)
    else .ok ('!' :: name, after)
  | _ => .error .badTag

/-- Read a tag, as a handle and the rest; a tag in full has an empty handle. -/
def read (flow : Bool) (cursor : Cursor) : Except Problem (Token × Cursor) := do
  let (handle, rest, cursor) ←
    match cursor.rest with
    | '!' :: '<' :: _ => do
      let (rest, cursor) ← uri true [] (cursor.skip 2)
      if cursor.sees '>' then pure ([], rest, cursor.skip 1) else throw .badTag
    | _ => do
      let (name, cursor) ← handle cursor
      if 1 < name.length ∧ name.getLast? = some '!' then
        let (rest, cursor) ← uri false [] cursor
        pure (name, rest, cursor)
      else
        let (rest, cursor) ← uri false name cursor
        if rest.octets.isEmpty then pure ([], Tag.ofText "!", cursor)
        else pure (['!'], rest, cursor)
  if atSpace cursor.rest || (flow && cursor.sees ',') then
    return (.tag (String.ofList handle) rest, cursor)
  else throw .badTag

end Tag

namespace Directive

/-- Read a number of at most nine digits. -/
def number (cursor : Cursor) : Except Problem (Nat × Cursor) :=
  let (digits, after) := cursor.run Char.isDigit
  if digits.isEmpty || 9 < digits.length then .error .badDirective
  else .ok (Text.decimalValue digits, after)

/-- Read the value of a version directive. -/
def version (cursor : Cursor) : Except Problem (Token × Cursor) := do
  let (major, cursor) ← number (cursor.skipWhile isBlank)
  if cursor.sees '.' then
    let (minor, cursor) ← number (cursor.skip 1)
    return (.versionDirective major minor, cursor)
  else throw .badDirective

/-- Read the value of a tag directive. -/
def tag (cursor : Cursor) : Except Problem (Token × Cursor) := do
  let (handle, cursor) ← Tag.handle (cursor.skipWhile isBlank)
  if handle ≠ ['!'] ∧ handle.getLast? ≠ some '!' then throw .badDirective
  if !cursor.atBlank then throw .badDirective
  let (expansion, cursor) ← Tag.uri true [] (cursor.skipWhile isBlank)
  if !atSpace cursor.rest then throw .badDirective
  return (.tagDirective (String.ofList handle) expansion, cursor)

/-- Read a directive from its indicator to the start of the next line. -/
def read (cursor : Cursor) : Except Problem (Token × Cursor) := do
  let (name, cursor) := (cursor.skip 1).run isNameChar
  if name.isEmpty || !atSpace cursor.rest then throw .badDirective
  let (token, cursor) ←
    match String.ofList name with
    | "YAML" => version cursor
    | "TAG" => tag cursor
    | _ => throw .badDirective
  let cursor := cursor.skipComment
  if atLineEnd cursor.rest then return (token, cursor.lineBreak.2)
  else throw .badDirective

end Directive

end Enclosure.Yaml
