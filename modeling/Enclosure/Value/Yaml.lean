import Enclosure.Text.Digits
import Enclosure.Value
import Enclosure.Yaml.Plain

/-!
# Plain data as YAML text

Lists and records are written as blocks: a field or an item to a line, a record
inside a record two spaces deeper, a list inside a record not deeper than its
field. Empty lists and records are written `[]` and with empty braces. Lines are
never folded.

A text is written unquoted when that reads back as the same text, between single
quotes when it does not, and between double quotes when it holds characters that
need an escape. A text with line breaks is written as a literal block where its
spaces allow it.
-/

set_option autoImplicit false

namespace Enclosure.Value

open Enclosure.Yaml

/-! ## Which style a text needs -/

/-- How a text is written. -/
inductive TextStyle where
  | plain
  | singleQuoted
  | doubleQuoted
  | literal
deriving DecidableEq

/-- Some two neighbouring characters satisfy the conditions. -/
def hasNeighbours (left right : Char → Bool) : List Char → Bool
  | first :: second :: rest =>
    (left first && right second) || hasNeighbours left right (second :: rest)
  | _ => false

/-- The text starts with an indicator that cannot start an unquoted text. -/
def startsWithIndicator : List Char → Bool
  | '-' :: '-' :: '-' :: _ => true
  | '.' :: '.' :: '.' :: _ => true
  | c :: rest =>
    "#,[]\x7b\x7d&*!|>'\"%@`".toList.contains c
      || ("-?:".toList.contains c && atSpace rest)
  | [] => false

/-- The text holds a colon before a space or its end, or a hash sign behind a
space. -/
def holdsIndicator (text : List Char) : Bool :=
  hasNeighbours (· == ':') (fun c => isBlank c || isBreak c) text
    || text.getLast? == some ':'
    || hasNeighbours (fun c => isBlank c || isBreak c) (· == '#') text

/-- A space stands before a line break. -/
def hasSpaceBeforeBreak : List Char → Bool := hasNeighbours (· == ' ') isBreak

/-- A space stands behind a line break. -/
def hasSpaceBehindBreak : List Char → Bool := hasNeighbours isBreak (· == ' ')

/-- Every character may be written as itself, and no space before a line break
would be lost. -/
def isPrintable (text : List Char) : Bool :=
  text.all isPlainlyPrinted && !hasSpaceBeforeBreak text

/-- The text may be written unquoted. -/
def mayBePlain (text : List Char) : Bool :=
  isPrintable text && !text.any isBreak && text.head? != some ' ' && text.getLast? != some ' '
    && !startsWithIndicator text && !holdsIndicator text

/-- The text may be written between single quotes. -/
def mayBeSingleQuoted (text : List Char) : Bool :=
  isPrintable text && !hasSpaceBehindBreak text

/-- The text may be written as a literal block. -/
def mayBeLiteral (text : List Char) : Bool :=
  isPrintable text && text.getLast? != some ' '

/-- The style that a text is written in. -/
def textStyle (text : String) : TextStyle :=
  let chars := text.toList
  if chars.contains '\n' then
    if mayBeLiteral chars then .literal else .doubleQuoted
  else if !readsAsOther text && mayBePlain chars then .plain
  else if mayBeSingleQuoted chars then .singleQuoted
  else .doubleQuoted

/-! ## Writing a text -/

/-- The lines of a text behind an indentation: a character that follows a line
break, or starts the text after one, is preceded by the indentation. -/
def indentLines (indent : Nat) : (afterBreak : Bool) → List Char → List Char
  | _, [] => []
  | afterBreak, c :: rest =>
    if isBreak c then c :: indentLines indent true rest
    else if afterBreak then
      List.replicate indent ' ' ++ c :: indentLines indent false rest
    else c :: indentLines indent false rest

/-- The letter that stands for a character behind a backslash. -/
def escapeLetter? (c : Char) : Option Char :=
  match c.toNat with
  | 0x00 => some '0'
  | 0x07 => some 'a'
  | 0x08 => some 'b'
  | 0x09 => some 't'
  | 0x0a => some 'n'
  | 0x0b => some 'v'
  | 0x0c => some 'f'
  | 0x0d => some 'r'
  | 0x1b => some 'e'
  | 0x22 => some '"'
  | 0x5c => some '\\'
  | 0x85 => some 'N'
  | 0x2028 => some 'L'
  | 0x2029 => some 'P'
  | _ => none

/-- A character between double quotes. -/
def doubleQuotedChar (c : Char) : List Char :=
  if isPlainlyPrinted c && !isBreak c && c != '"' && c != '\\' then [c]
  else
    match escapeLetter? c with
    | some letter => ['\\', letter]
    | none =>
      if c.toNat ≤ 0xff then '\\' :: 'x' :: Text.hexDigits 2 c.toNat
      else if c.toNat ≤ 0xffff then '\\' :: 'u' :: Text.hexDigits 4 c.toNat
      else '\\' :: 'U' :: Text.hexDigits 8 c.toNat

/-- The header of a literal block: its indentation when the text starts with a
space or a break, and what happens to the breaks at its end. -/
def literalHeader (text : List Char) : List Char :=
  let hint :=
    match text with
    | c :: _ => if c = ' ' || isBreak c then ['2'] else []
    | [] => []
  let chomping :=
    match text.reverse with
    | last :: before =>
      if !isBreak last then ['-']
      else
        match before with
        | [] => ['+']
        | c :: _ => if isBreak c then ['+'] else []
    | [] => ['-']
  '|' :: hint ++ chomping

/-- A text in its style; its further lines get the indentation. -/
def yamlText (indent : Nat) (text : String) : List Char :=
  let chars := text.toList
  match textStyle text with
  | .plain => chars
  | .singleQuoted =>
    let body := indentLines indent false (chars.flatMap fun c => if c = '\'' then [c, c] else [c])
    let closing := if chars.getLast?.any isBreak then List.replicate indent ' ' else []
    '\'' :: body ++ closing ++ ['\'']
  | .doubleQuoted => '"' :: chars.flatMap doubleQuotedChar ++ ['"']
  | .literal => literalHeader chars ++ '\n' :: indentLines indent true chars

/-! ## Layout -/

/-- End a line, unless what was written already did. -/
def endLine (written : List Char) : List Char :=
  if written.getLast?.any isBreak then written else written ++ ['\n']

/-- The text can stand before the colon on a line of its own. -/
def isSimpleKey (name : String) : Bool := !name.toList.any isBreak && name.utf8ByteSize ≤ 128

mutual

/-- Data behind an indicator or at the start of a line, in a block with an
indentation; its further lines get the indentation. -/
def yamlBlock (indent : Nat) : Value → List Char
  | null => "null".toList
  | bool true => "true".toList
  | bool false => "false".toList
  | number value => (toString value).toList
  | decimal digits => digits.toList
  | text content => yamlText indent content
  | list [] => ['[', ']']
  | list (item :: items) => yamlItems indent (item :: items)
  | record [] => ['\x7b', '\x7d']
  | record (field :: fields) => yamlFields indent (field :: fields)

/-- The items of a list, each behind a dash. -/
def yamlItems (indent : Nat) : List Value → List Char
  | [] => []
  | item :: items =>
    let first := '-' :: ' ' :: yamlBlock (indent + 2) item
    match items with
    | [] => first
    | item :: items =>
      endLine first ++ List.replicate indent ' ' ++ yamlItems indent (item :: items)

/-- The fields of a record. -/
def yamlFields (indent : Nat) : List (String × Value) → List Char
  | [] => []
  | (name, value) :: fields =>
    let first :=
      if isSimpleKey name then yamlText (indent + 2) name ++ ':' :: yamlValue indent value
      else
        endLine ('?' :: ' ' :: yamlText (indent + 2) name) ++ List.replicate indent ' '
          ++ ':' :: ' ' :: yamlBlock (indent + 2) value
    match fields with
    | [] => first
    | field :: fields =>
      endLine first ++ List.replicate indent ' ' ++ yamlFields indent (field :: fields)

/-- The value of a field behind its colon: on the same line, or on the lines
after it. -/
def yamlValue (indent : Nat) : Value → List Char
  | list (item :: items) => '\n' :: List.replicate indent ' ' ++ yamlItems indent (item :: items)
  | record (field :: fields) =>
    '\n' :: List.replicate (indent + 2) ' ' ++ yamlFields (indent + 2) (field :: fields)
  | list [] => [' ', '[', ']']
  | record [] => [' ', '\x7b', '\x7d']
  | null => ' ' :: "null".toList
  | bool true => ' ' :: "true".toList
  | bool false => ' ' :: "false".toList
  | number value => ' ' :: (toString value).toList
  | decimal digits => ' ' :: digits.toList
  | text content => ' ' :: yamlText (indent + 2) content

end

/-- **Data as YAML text.** -/
def yaml (value : Value) : String :=
  let block :=
    match value with
    | text content => yamlText 2 content
    | value => yamlBlock 0 value
  String.ofList (endLine block)

end Enclosure.Value
