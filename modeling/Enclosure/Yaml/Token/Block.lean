import Enclosure.Yaml.Cursor

/-!
# Block scalars

A block scalar is a header, `|` for a literal and `>` for a folded one, and the
lines after it that are indented deeper than its surroundings. The header may
fix the indentation, which otherwise is that of the first line that is not
empty, and may say what happens to the line breaks at the end: one is kept, all
are kept, or none.
-/

set_option autoImplicit false

namespace Enclosure.Yaml.Block

/-- What happens to the line breaks at the end. -/
inductive Chomping where
  | strip
  | clip
  | keep
deriving DecidableEq

/-- Read a chomping indicator. -/
def chomping? : List Char → Option Chomping
  | '+' :: _ => some .keep
  | '-' :: _ => some .strip
  | _ => none

/-- Read an indentation indicator, which is a digit other than zero. -/
def increment? (cursor : Cursor) : Except Problem (Option Nat × Cursor) :=
  match cursor.rest with
  | c :: _ =>
    if c = '0' then .error .badBlockHeader
    else if c.isDigit then .ok (some (c.toNat - 48), cursor.skip 1)
    else .ok (none, cursor)
  | [] => .ok (none, cursor)

/-- Read a header behind its indicator, up to the start of the next line. -/
def header (cursor : Cursor) : Except Problem (Chomping × Option Nat × Cursor) := do
  let (chomping, increment, cursor) ←
    match chomping? cursor.rest with
    | some chomping => do
      let (increment, cursor) ← increment? (cursor.skip 1)
      pure (chomping, increment, cursor)
    | none => do
      let (increment, cursor) ← increment? cursor
      match increment, chomping? cursor.rest with
      | some _, some chomping => pure (chomping, increment, cursor.skip 1)
      | _, _ => pure (.clip, increment, cursor)
  let cursor := cursor.skipComment
  if atLineEnd cursor.rest then return (chomping, increment, cursor.lineBreak.2)
  else throw .badBlockHeader

/-- Pass empty lines and the indentation of the line after them, which is
`indent` when that is known. Gives the line breaks and the deepest indentation
met. -/
def emptyLines (indent : Option Nat) :
    (fuel : Nat) → Cursor → (deepest : Nat) → List Char →
      Except Problem (List Char × Nat × Cursor)
  | 0, cursor, deepest, breaks => .ok (breaks, deepest, cursor)
  | fuel + 1, cursor, deepest, breaks =>
    let spaces := (cursor.rest.takeWhile (· == ' ')).length
    let cursor :=
      match indent with
      | none => cursor.skip spaces
      | some indent => cursor.skip (min spaces (indent - cursor.column))
    let deepest := max deepest cursor.column
    if cursor.sees '\t' && indent.all (cursor.column < ·) then .error .tabIndentation
    else if cursor.atBreak then
      let (passed, after) := cursor.lineBreak
      emptyLines indent fuel after deepest (breaks ++ passed)
    else .ok (breaks, deepest, cursor)

/-- What has been read of a block scalar. -/
structure Progress where
  text : List Char := []
  /-- The break at the end of the last line. -/
  lastBreak : List Char := []
  /-- The breaks of the empty lines after it. -/
  moreBreaks : List Char := []
  /-- The last line starts with a blank, which protects it from folding. -/
  startsBlank : Bool := false

/-- Read the lines with the indentation. -/
def lines (literal : Bool) (indent : Nat) :
    (fuel : Nat) → Cursor → Progress → Except Problem (Progress × Cursor)
  | 0, cursor, progress => .ok (progress, cursor)
  | fuel + 1, cursor, progress =>
    if cursor.column = indent ∧ !cursor.rest.isEmpty then do
      let blank := cursor.atBlank
      let joint :=
        if !literal && progress.lastBreak == ['\n'] && !progress.startsBlank && !blank then
          if progress.moreBreaks.isEmpty then [' '] else []
        else progress.lastBreak
      let (line, cursor) := cursor.run fun c => !isBreak c
      let (lastBreak, cursor) := cursor.lineBreak
      let (moreBreaks, _, cursor) ←
        emptyLines (some indent) (cursor.rest.length + 1) cursor 0 []
      lines literal indent fuel cursor
        { text := progress.text ++ joint ++ progress.moreBreaks ++ line
          lastBreak := lastBreak
          moreBreaks := moreBreaks
          startsBlank := blank }
    else .ok (progress, cursor)

/-- **Read a block scalar** from its indicator, in surroundings with an
indentation, which is -1 outside of everything. -/
def read (literal : Bool) (surrounding : Int) (cursor : Cursor) :
    Except Problem (String × Cursor) := do
  let (chomping, increment, cursor) ← header (cursor.skip 1)
  let fixed := increment.map fun increment => (max surrounding 0).toNat + increment
  let (breaks, deepest, cursor) ← emptyLines fixed (cursor.rest.length + 1) cursor 0 []
  let indent := fixed.getD (max deepest (max (surrounding + 1).toNat 1))
  let (progress, cursor) ←
    lines literal indent (cursor.rest.length + 1) cursor { moreBreaks := breaks }
  let ending :=
    match chomping with
    | .strip => []
    | .clip => progress.lastBreak
    | .keep => progress.lastBreak ++ progress.moreBreaks
  return (String.ofList (progress.text ++ ending), cursor)

end Enclosure.Yaml.Block
