import Enclosure.Yaml.Token.Block
import Enclosure.Yaml.Token.Name
import Enclosure.Yaml.Token.Quoted
import Enclosure.Yaml.Token.Unquoted

/-!
# A text as a sequence of tokens

Two things make the tokens of a YAML text depend on what surrounds them.

Indentation opens and closes blocks. The stack of open indentations says when a
line starts a block (it is deeper than the innermost) and when it ends some (it
is less deep). Inside flow collections indentation does not matter.

A key shows only by the colon behind it. Whatever could be a key is remembered
as a candidate, one for each level of flow collections; when the colon comes, the
key token is put in front of it after the fact. A candidate lapses at the end of
its line and after 1024 octets. Where indentation says that only a key can
stand, a candidate that lapses is an error.
-/

set_option autoImplicit false

namespace Enclosure.Yaml

/-- A place where a key may have started. -/
structure KeyCandidate where
  /-- Only a key can stand here. -/
  required : Bool
  /-- How many tokens there were before it. -/
  tokenCount : Nat
  index : Nat
  line : Nat
  column : Nat

/-- Reading tokens in progress. -/
structure Lexer where
  cursor : Cursor
  tokens : Array Token := #[]
  /-- The innermost open indentation, -1 when no block is open. -/
  indent : Int := -1
  /-- The open indentations around it. -/
  indents : List Int := []
  /-- The key candidate of the innermost level. -/
  candidate : Option KeyCandidate := none
  /-- The key candidates of the levels around it, one for each open flow
  collection. -/
  outerCandidates : List (Option KeyCandidate) := []
  /-- A key may start here. -/
  keyAllowed : Bool := true

namespace Lexer

/-- A flow collection is open. -/
def inFlow (lexer : Lexer) : Bool := !lexer.outerCandidates.isEmpty

/-- Add a token. -/
def emit (lexer : Lexer) (token : Token) : Lexer :=
  { lexer with tokens := lexer.tokens.push token }

/-- Add a token and pass the characters it is written with. -/
def emitAfter (lexer : Lexer) (token : Token) (length : Nat) : Lexer :=
  { lexer with tokens := lexer.tokens.push token, cursor := lexer.cursor.skip length }

/-! ## Key candidates -/

/-- The candidate cannot be a key any more. -/
def hasLapsed (lexer : Lexer) (candidate : KeyCandidate) : Bool :=
  candidate.line < lexer.cursor.line || candidate.index + 1024 < lexer.cursor.index

/-- A candidate, unless it has lapsed; a required one must not. -/
def refresh (lexer : Lexer) : Option KeyCandidate → Except Problem (Option KeyCandidate)
  | none => .ok none
  | some candidate =>
    if lexer.hasLapsed candidate then
      if candidate.required then .error .unfinishedKey else .ok none
    else .ok (some candidate)

/-- Drop the candidates that have lapsed. -/
def refreshAll (lexer : Lexer) : Except Problem Lexer := do
  let outer ← lexer.outerCandidates.mapM lexer.refresh
  let inner ← lexer.refresh lexer.candidate
  return { lexer with candidate := inner, outerCandidates := outer }

/-- Give up the candidate of this level, which must not be required. -/
def dropCandidate (lexer : Lexer) : Except Problem Lexer :=
  if lexer.candidate.any (·.required) then .error .unfinishedKey
  else .ok { lexer with candidate := none }

/-- Remember that a key may start here. -/
def saveCandidate (lexer : Lexer) : Except Problem Lexer :=
  if lexer.keyAllowed then do
    let lexer ← lexer.dropCandidate
    return { lexer with
      candidate := some
        { required := !lexer.inFlow && lexer.indent == lexer.cursor.column
          tokenCount := lexer.tokens.size
          index := lexer.cursor.index
          line := lexer.cursor.line
          column := lexer.cursor.column } }
  else .ok lexer

/-! ## Indentation -/

/-- Open a block at a column, if that is deeper than the innermost block; its
token goes behind the first `position` tokens. -/
def openBlock (lexer : Lexer) (column position : Nat) (token : Token) : Lexer :=
  if !lexer.inFlow && lexer.indent < column then
    { lexer with
      indents := lexer.indent :: lexer.indents
      indent := column
      tokens := lexer.tokens.insertIdxIfInBounds position token }
  else lexer

/-- Close blocks that are deeper than a column. -/
def closeDeeper (column : Int) : (indents : List Int) → Lexer → Lexer
  | [], lexer => lexer
  | outer :: indents, lexer =>
    if column < lexer.indent then
      closeDeeper column indents { lexer.emit .blockEnd with indent := outer, indents := indents }
    else lexer

/-- Close the blocks that are deeper than a column. -/
def closeBlocks (lexer : Lexer) (column : Int) : Lexer :=
  if lexer.inFlow then lexer else closeDeeper column lexer.indents lexer

/-! ## White space -/

/-- Pass white space, comments and line breaks. A tab does not count as white
space where a key may start, because there it would be indentation. -/
def passSpace : (fuel : Nat) → Lexer → Lexer
  | 0, lexer => lexer
  | fuel + 1, lexer =>
    let start :=
      if lexer.cursor.column == 0 && lexer.cursor.sees '\ufeff' then lexer.cursor.skip 1
      else lexer.cursor
    let tabs := lexer.inFlow || !lexer.keyAllowed
    let cursor := start.skipWhile fun c => c == ' ' || (tabs && c == '\t')
    let cursor := if cursor.sees '#' then cursor.skipLine else cursor
    if cursor.atBreak then
      passSpace fuel
        { lexer with
          cursor := cursor.lineBreak.2
          keyAllowed := lexer.keyAllowed || !lexer.inFlow }
    else { lexer with cursor := cursor }

/-! ## One token -/

/-- Read a directive or a document marker, before which all blocks end. -/
def readMarker (lexer : Lexer) (read : Cursor → Except Problem (Token × Cursor)) :
    Except Problem Lexer := do
  let lexer ← (lexer.closeBlocks (-1)).dropCandidate
  let (token, cursor) ← read lexer.cursor
  return { lexer.emit token with cursor := cursor, keyAllowed := false }

/-- Open a flow collection. -/
def openFlow (lexer : Lexer) (token : Token) : Except Problem Lexer := do
  let lexer ← lexer.saveCandidate
  let lexer := lexer.emitAfter token 1
  return { lexer with
    candidate := none
    outerCandidates := lexer.candidate :: lexer.outerCandidates
    keyAllowed := true }

/-- Close a flow collection. -/
def closeFlow (lexer : Lexer) (token : Token) : Except Problem Lexer := do
  let lexer ← lexer.dropCandidate
  let lexer := { lexer.emitAfter token 1 with keyAllowed := false }
  match lexer.outerCandidates with
  | [] => return lexer
  | outer :: rest => return { lexer with candidate := outer, outerCandidates := rest }

/-- Read a comma between the items of a flow collection. -/
def readFlowEntry (lexer : Lexer) : Except Problem Lexer := do
  let lexer ← lexer.dropCandidate
  return { lexer.emitAfter .flowEntry 1 with keyAllowed := true }

/-- Start a block where one may start. -/
def startBlock (lexer : Lexer) (token : Token) : Except Problem Lexer :=
  if lexer.inFlow then .ok lexer
  else if lexer.keyAllowed then
    .ok (lexer.openBlock lexer.cursor.column lexer.tokens.size token)
  else .error .misplacedIndicator

/-- Read the dash of a block sequence. -/
def readBlockEntry (lexer : Lexer) : Except Problem Lexer := do
  let lexer ← lexer.startBlock .blockSequenceStart
  let lexer ← lexer.dropCandidate
  return { lexer.emitAfter .blockEntry 1 with keyAllowed := true }

/-- Read the question mark of a key that is marked as one. -/
def readKey (lexer : Lexer) : Except Problem Lexer := do
  let lexer ← lexer.startBlock .blockMappingStart
  let lexer ← lexer.dropCandidate
  return { lexer.emitAfter .key 1 with keyAllowed := !lexer.inFlow }

/-- Read the colon before a value. If a candidate is there, it was a key. -/
def readValue (lexer : Lexer) : Except Problem Lexer :=
  match lexer.candidate with
  | some candidate =>
    let lexer :=
      { lexer with
        tokens := lexer.tokens.insertIdxIfInBounds candidate.tokenCount .key
        candidate := none
        keyAllowed := false }
    let lexer := lexer.openBlock candidate.column candidate.tokenCount .blockMappingStart
    .ok (lexer.emitAfter .value 1)
  | none => do
    let lexer ← lexer.startBlock .blockMappingStart
    return { lexer.emitAfter .value 1 with keyAllowed := !lexer.inFlow }

/-- Read an anchor, a reference, a tag or a quoted scalar: something that may be
a key or stand before one, and that no key follows directly. -/
def readAtom (lexer : Lexer) (read : Cursor → Except Problem (Token × Cursor)) :
    Except Problem Lexer := do
  let lexer ← lexer.saveCandidate
  let (token, cursor) ← read lexer.cursor
  return { lexer.emit token with cursor := cursor, keyAllowed := false }

/-- Read a scalar without quotes. -/
def readUnquoted (lexer : Lexer) : Except Problem Lexer := do
  let lexer ← lexer.saveCandidate
  let (text, broken, cursor) ←
    Unquoted.read lexer.inFlow (lexer.indent + 1).toNat lexer.cursor
  return { lexer.emit (.scalar text true) with cursor := cursor, keyAllowed := broken }

/-- Read a block scalar. -/
def readBlock (lexer : Lexer) (literal : Bool) : Except Problem Lexer := do
  let lexer ← lexer.dropCandidate
  let (text, cursor) ← Block.read literal lexer.indent lexer.cursor
  return { lexer.emit (.scalar text false) with cursor := cursor, keyAllowed := true }

/-- A scalar without quotes may start with this text. -/
def startsUnquoted (lexer : Lexer) : List Char → Bool
  | [] => false
  | c :: rest =>
    (!isBlank c && !isBreak c && !"-?:,[]\x7b\x7d#&*!|>'\"%@`".toList.contains c)
      || (c == '-' && !rest.head?.any isBlank)
      || (!lexer.inFlow && (c == '?' || c == ':') && !atSpace rest)

/-- Read one token, or find none at the end of the text. -/
def readToken (lexer : Lexer) : Except Problem (Option Lexer) := do
  let lexer := lexer.passSpace (lexer.cursor.rest.length + 1)
  let lexer ← lexer.refreshAll
  let lexer := lexer.closeBlocks lexer.cursor.column
  let cursor := lexer.cursor
  match cursor.rest with
  | [] => return none
  | c :: rest =>
    let flow := lexer.inFlow
    if cursor.column = 0 ∧ c = '%' then lexer.readMarker Directive.read
    else if cursor.atMarker then
      let token := if c = '-' then Token.documentStart else .documentEnd
      lexer.readMarker fun cursor => .ok (token, cursor.skip 3)
    else if c = '[' then lexer.openFlow .flowSequenceStart
    else if c = '\x7b' then lexer.openFlow .flowMappingStart
    else if c = ']' then lexer.closeFlow .flowSequenceEnd
    else if c = '\x7d' then lexer.closeFlow .flowMappingEnd
    else if c = ',' then lexer.readFlowEntry
    else if c = '-' ∧ atSpace rest then lexer.readBlockEntry
    else if c = '?' ∧ (flow ∨ atSpace rest) then lexer.readKey
    else if c = ':' ∧ (flow ∨ atSpace rest) then lexer.readValue
    else if c = '*' then lexer.readAtom fun cursor => do
      let (name, after) ← anchorName cursor
      return (.reference name, after)
    else if c = '&' then lexer.readAtom fun cursor => do
      let (name, after) ← anchorName cursor
      return (.anchor name, after)
    else if c = '!' then lexer.readAtom (Tag.read flow)
    else if c = '|' ∧ !flow then lexer.readBlock true
    else if c = '>' ∧ !flow then lexer.readBlock false
    else if c = '\'' ∨ c = '"' then lexer.readAtom fun cursor => do
      let (text, after) ← Quoted.read (c = '\'') cursor
      return (.scalar text false, after)
    else if lexer.startsUnquoted cursor.rest then lexer.readUnquoted
    else throw .strayCharacter

/-- Read tokens to the end of the text, where all blocks end. -/
def readAll : (fuel : Nat) → Lexer → Except Problem (List Token)
  | 0, lexer => .ok lexer.tokens.toList
  | fuel + 1, lexer => do
    match ← lexer.readToken with
    | some lexer => readAll fuel lexer
    | none =>
      let lexer ← lexer.dropCandidate
      return (lexer.closeBlocks (-1)).tokens.toList

end Lexer

/-- **The tokens of a text.** -/
def tokens (text : String) : Except Problem (List Token) :=
  let chars := text.toList
  if chars.all isAllowed then
    Lexer.readAll (chars.length + 1) { cursor := { rest := chars } }
  else .error .forbiddenCharacter

end Enclosure.Yaml
