import Enclosure.Yaml.Characters
import Enclosure.Yaml.Problem

/-!
# Reading a text from left to right

A cursor is what is left of a text and where in the text that is. Indentation is
counted in columns and the length of a key in octets, so the cursor keeps line,
column and the number of octets passed.

A gap is the white space between two pieces of a scalar that may run over
several lines. A single line break in a gap counts as a space; of several, all
but the first count.
-/

set_option autoImplicit false

namespace Enclosure.Yaml

/-- What is left of a text, and where that is. -/
structure Cursor where
  rest : List Char
  /-- How many octets lie before it. -/
  index : Nat := 0
  line : Nat := 0
  column : Nat := 0

namespace Cursor

/-- How many octets the next characters take. -/
def octetsAhead (cursor : Cursor) (count : Nat) : Nat :=
  (String.ofList (cursor.rest.take count)).utf8ByteSize

/-- Pass a number of characters of the line. -/
def skip (cursor : Cursor) (count : Nat) : Cursor :=
  { cursor with
    rest := cursor.rest.drop count
    index := cursor.index + cursor.octetsAhead count
    column := cursor.column + count }

/-- Pass the characters of the line that satisfy a condition. -/
def run (cursor : Cursor) (condition : Char → Bool) : List Char × Cursor :=
  let passed := cursor.rest.takeWhile condition
  (passed, cursor.skip passed.length)

/-- Pass the characters of the line that satisfy a condition and forget them. -/
def skipWhile (cursor : Cursor) (condition : Char → Bool) : Cursor := (cursor.run condition).2

/-- Pass the rest of the line. -/
def skipLine (cursor : Cursor) : Cursor := cursor.skipWhile fun c => !isBreak c

/-- Pass blanks and a comment, as they may stand at the end of a line. -/
def skipComment (cursor : Cursor) : Cursor :=
  let cursor := cursor.skipWhile isBlank
  match cursor.rest with
  | '#' :: _ => cursor.skipLine
  | _ => cursor

/-- Go to the start of the next line, past a break of some characters. -/
def newLine (cursor : Cursor) (count : Nat) : Cursor where
  rest := cursor.rest.drop count
  index := cursor.index + cursor.octetsAhead count
  line := cursor.line + 1
  column := 0

/-- Pass a line break, if the cursor is at one, and give it as it counts in a
scalar. -/
def lineBreak (cursor : Cursor) : List Char × Cursor :=
  match cursor.rest with
  | '\r' :: '\n' :: _ => (['\n'], cursor.newLine 2)
  | c :: _ =>
    if c = '\u2028' ∨ c = '\u2029' then ([c], cursor.newLine 1)
    else if isBreak c then (['\n'], cursor.newLine 1)
    else ([], cursor)
  | [] => ([], cursor)

/-- The cursor is at a line break. -/
def atBreak (cursor : Cursor) : Bool := cursor.rest.head?.any isBreak

/-- The cursor is at a blank. -/
def atBlank (cursor : Cursor) : Bool := cursor.rest.head?.any isBlank

/-- The cursor is at a character. -/
def sees (cursor : Cursor) (c : Char) : Bool := cursor.rest.head? == some c

/-- The cursor is at a document marker: three dashes or dots at the start of a
line and by themselves. -/
def atMarker (cursor : Cursor) : Bool :=
  cursor.column == 0 &&
    match cursor.rest with
    | '-' :: '-' :: '-' :: rest => atSpace rest
    | '.' :: '.' :: '.' :: rest => atSpace rest
    | _ => false

end Cursor

/-- The white space between two pieces of a scalar. -/
structure Gap where
  /-- The blanks, when no line break follows them. -/
  blanks : List Char := []
  /-- The first line break. -/
  firstBreak : List Char := []
  /-- The further line breaks. -/
  moreBreaks : List Char := []
  /-- A line break was passed. -/
  broken : Bool := false

namespace Gap

/-- What the gap counts for between two pieces of a scalar. -/
def text (gap : Gap) : List Char :=
  if gap.broken then
    if gap.firstBreak = ['\n'] then
      if gap.moreBreaks.isEmpty then [' '] else gap.moreBreaks
    else gap.firstBreak ++ gap.moreBreaks
  else gap.blanks

/-- Pass white space. After a line break, a tab before column `margin` would be
indentation and is refused. -/
def read (margin : Nat) : (fuel : Nat) → Gap → Cursor → Except Problem (Gap × Cursor)
  | 0, gap, cursor => .ok (gap, cursor)
  | fuel + 1, gap, cursor =>
    match cursor.rest with
    | [] => .ok (gap, cursor)
    | c :: _ =>
      if isBlank c then
        if gap.broken then
          if c = '\t' ∧ cursor.column < margin then .error .tabIndentation
          else read margin fuel gap (cursor.skip 1)
        else read margin fuel { gap with blanks := gap.blanks ++ [c] } (cursor.skip 1)
      else if isBreak c then
        let (passed, after) := cursor.lineBreak
        if gap.broken then
          read margin fuel { gap with moreBreaks := gap.moreBreaks ++ passed } after
        else
          read margin fuel
            { gap with blanks := [], firstBreak := passed, broken := true } after
      else .ok (gap, cursor)

end Gap

end Enclosure.Yaml
