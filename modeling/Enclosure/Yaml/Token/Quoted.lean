import Enclosure.Text.Digits
import Enclosure.Yaml.Cursor

/-!
# Quoted scalars

Between single quotes a quote is written twice and nothing else is special.
Between double quotes a backslash starts an escape, and a backslash at the end
of a line joins the line with the next. In both, white space around line breaks
is folded.
-/

set_option autoImplicit false

namespace Enclosure.Yaml.Quoted

/-- The character that a letter stands for behind a backslash. -/
def escaped? : Char → Option Char
  | '0' => some '\x00'
  | 'a' => some '\x07'
  | 'b' => some '\x08'
  | 't' => some '\t'
  | '\t' => some '\t'
  | 'n' => some '\n'
  | 'v' => some '\x0b'
  | 'f' => some '\x0c'
  | 'r' => some '\r'
  | 'e' => some '\x1b'
  | ' ' => some ' '
  | '"' => some '"'
  | '/' => some '/'
  | '\\' => some '\\'
  | 'N' => some '\u0085'
  | '_' => some '\u00a0'
  | 'L' => some '\u2028'
  | 'P' => some '\u2029'
  | _ => none

/-- The number of hexadecimal digits behind a letter behind a backslash. -/
def codeLength? : Char → Option Nat
  | 'x' => some 2
  | 'u' => some 4
  | 'U' => some 8
  | _ => none

/-- The character with a code given by a number of hexadecimal digits. -/
def coded? (length : Nat) (digits : List Char) : Option Char := do
  let digits := digits.take length
  if digits.length < length then none
  else
    let code ← digits.foldlM (fun code c => (Text.hexValue? c).map (code * 16 + ·)) 0
    if code.isValidChar then some (Char.ofNat code) else none

/-- A piece of a quoted scalar without white space. -/
structure Piece where
  text : List Char := []
  /-- The piece ended at a backslash before a line break. -/
  joined : Bool := false

/-- Read a piece between single quotes. -/
def singlePiece : List Char → List Char × Nat
  | '\'' :: '\'' :: rest =>
    let (text, count) := singlePiece rest
    ('\'' :: text, count + 2)
  | '\'' :: _ => ([], 0)
  | c :: rest =>
    if isBlank c || isBreak c then ([], 0)
    else
      let (text, count) := singlePiece rest
      (c :: text, count + 1)
  | [] => ([], 0)

/-- Read a piece between double quotes. -/
def doublePiece : (fuel : Nat) → Cursor → List Char → Except Problem (Piece × Cursor)
  | 0, cursor, text => .ok (⟨text, false⟩, cursor)
  | fuel + 1, cursor, text =>
    match cursor.rest with
    | [] => .ok (⟨text, false⟩, cursor)
    | '"' :: _ => .ok (⟨text, false⟩, cursor)
    | '\\' :: rest =>
      match rest with
      | [] => .error .badEscape
      | letter :: digits =>
        if isBreak letter then .ok (⟨text, true⟩, ((cursor.skip 1).lineBreak).2)
        else
          match escaped? letter, codeLength? letter with
          | some c, _ => doublePiece fuel (cursor.skip 2) (text ++ [c])
          | none, some length =>
            match coded? length digits with
            | some c => doublePiece fuel (cursor.skip (2 + length)) (text ++ [c])
            | none => .error .badEscape
          | none, none => .error .badEscape
    | c :: _ =>
      if isBlank c || isBreak c then .ok (⟨text, false⟩, cursor)
      else doublePiece fuel (cursor.skip 1) (text ++ [c])

/-- Read a piece. -/
def piece (single : Bool) (cursor : Cursor) : Except Problem (Piece × Cursor) :=
  if single then
    let (text, count) := singlePiece cursor.rest
    .ok (⟨text, false⟩, cursor.skip count)
  else doublePiece cursor.rest.length cursor []

/-- Read pieces and gaps up to the closing quote. -/
def body (single : Bool) :
    (fuel : Nat) → Cursor → List Char → Except Problem (List Char × Cursor)
  | 0, _, _ => .error .unclosedQuote
  | fuel + 1, cursor, text =>
    if cursor.atMarker || cursor.rest.isEmpty then .error .unclosedQuote
    else do
      let (piece, cursor) ← piece single cursor
      let text := text ++ piece.text
      if cursor.sees (if single then '\'' else '"') then return (text, cursor.skip 1)
      else
        let (gap, cursor) ← Gap.read 0 cursor.rest.length { broken := piece.joined } cursor
        body single fuel cursor (text ++ gap.text)

/-- **Read a quoted scalar** from its opening quote. -/
def read (single : Bool) (cursor : Cursor) : Except Problem (String × Cursor) := do
  let (text, after) ← body single (cursor.rest.length + 1) (cursor.skip 1) []
  return (String.ofList text, after)

end Enclosure.Yaml.Quoted
