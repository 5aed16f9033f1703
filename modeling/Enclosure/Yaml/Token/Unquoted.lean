import Enclosure.Yaml.Cursor

/-!
# Scalars without quotes

A scalar without quotes ends where it could be taken for something else: at a
colon before white space, at a comment, at a document marker, and, inside a flow
collection, at the indicators of such collections. It may run over several lines
as long as they are indented deeper than its surroundings.
-/

set_option autoImplicit false

namespace Enclosure.Yaml.Unquoted

/-- The characters up to white space or to what ends the scalar. -/
def piece (flow : Bool) : List Char → Except Problem (List Char)
  | [] => .ok []
  | c :: rest =>
    if isBlank c || isBreak c then .ok []
    else if flow && c == ':' && rest.head?.any (",?[]\x7b\x7d".toList.contains ·) then
      .error .strayColon
    else if (c == ':' && atSpace rest) || (flow && ",[]\x7b\x7d".toList.contains c) then .ok []
    else (piece flow rest).map (c :: ·)

/-- Read pieces and gaps; a gap counts only when a piece follows it. The flag
says whether a line break was passed after the last piece. -/
def body (flow : Bool) (margin : Nat) :
    (fuel : Nat) → Cursor → Gap → List Char → Except Problem (List Char × Bool × Cursor)
  | 0, cursor, gap, text => .ok (text, gap.broken, cursor)
  | fuel + 1, cursor, gap, text =>
    if cursor.atMarker || cursor.sees '#' then .ok (text, gap.broken, cursor)
    else do
      let found ← piece flow cursor.rest
      if found.isEmpty then return (text, gap.broken, cursor)
      else
        let text := text ++ gap.text ++ found
        let cursor := cursor.skip found.length
        if cursor.atBlank || cursor.atBreak then
          let (gap, cursor) ← Gap.read margin cursor.rest.length {} cursor
          if !flow && cursor.column < margin then return (text, gap.broken, cursor)
          else body flow margin fuel cursor gap text
        else return (text, false, cursor)

/-- **Read a scalar without quotes.** Its further lines start at column `margin`
or later. The flag says whether a line break was passed after it. -/
def read (flow : Bool) (margin : Nat) (cursor : Cursor) :
    Except Problem (String × Bool × Cursor) := do
  let (text, broken, after) ← body flow margin (cursor.rest.length + 1) cursor {} []
  return (String.ofList text, broken, after)

end Enclosure.Yaml.Unquoted
