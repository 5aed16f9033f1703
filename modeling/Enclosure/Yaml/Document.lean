import Enclosure.Yaml.Node
import Enclosure.Yaml.Token.Stream

/-!
# A sequence of tokens as a document

A text holds at most one document, which may be empty. A document may be
preceded by directives and surrounded by markers. Its nodes are read by
recursive descent; an item or a value that is not written is an empty scalar.

Each function takes fuel, which bounds the depth and the length of what it reads;
every step but the last of a list takes a token, so the number of tokens is fuel
enough.
-/

set_option autoImplicit false

namespace Enclosure.Yaml

/-- Reading nodes in progress: the tokens left, the declared tag handles, and
the anchor names with their numbers. -/
structure NodeReader where
  tokens : List Token
  handles : List (String × Tag) := []
  anchors : List (String × Nat) := []

namespace NodeReader

/-- The next token. -/
def peek (reader : NodeReader) : Option Token := reader.tokens.head?

/-- Pass the next token. -/
def pass (reader : NodeReader) : NodeReader := { reader with tokens := reader.tokens.tail }

/-- The next token is one of these, or there is none. -/
def sees (reader : NodeReader) (tokens : List Token) : Bool := reader.peek.any tokens.contains

/-- The tag that a handle and the rest of a tag stand for. -/
def expandTag (reader : NodeReader) (handle : String) (rest : Tag) : Except Problem Tag :=
  if handle = "" then .ok rest
  else
    match reader.handles.lookup handle with
    | some expansion => .ok (expansion.append rest)
    | none => .error .badTag

/-- Number an anchor by how many names there are already; a name that is used
again gets a new number. -/
def addAnchor (reader : NodeReader) (name : String) : Nat × NodeReader :=
  let number := reader.anchors.length
  let others := reader.anchors.filter (·.1 != name)
  (number, { reader with anchors := (name, number) :: others })

/-- Read the tag and the anchor before a node, in either order. -/
def properties (reader : NodeReader) :
    Option String × Option (String × Tag) × NodeReader :=
  match reader.tokens with
  | .anchor name :: .tag handle rest :: tokens =>
    (some name, some (handle, rest), { reader with tokens := tokens })
  | .tag handle rest :: .anchor name :: tokens =>
    (some name, some (handle, rest), { reader with tokens := tokens })
  | .anchor name :: tokens => (some name, none, { reader with tokens := tokens })
  | .tag handle rest :: tokens => (none, some (handle, rest), { reader with tokens := tokens })
  | _ => (none, none, reader)

/-- The indicators before which an item of a block sequence is not written. -/
def entryStops : List Token := [.blockEntry, .blockEnd]

/-- The indicators before which a part of a block mapping, or an item of a block
sequence that is not indented, is not written. -/
def fieldStops : List Token := [.key, .value, .blockEnd]

mutual

/-- Read a node. Inside flow collections there are no blocks; the value of a
block mapping may be a sequence that is not indented deeper than its key. -/
def node : (fuel : Nat) → (block indentless : Bool) → NodeReader →
    Except Problem (Node × NodeReader)
  | 0, _, _, _ => .error .unexpectedToken
  | fuel + 1, block, indentless, reader =>
    match reader.peek with
    | some (.reference name) =>
      match reader.anchors.lookup name with
      | some number => .ok (.reference number, reader.pass)
      | none => .error .undefinedAlias
    | _ => do
      let (name, tagged, reader) := reader.properties
      let tag ← tagged.mapM fun (handle, rest) => reader.expandTag handle rest
      let (anchor, reader) :=
        match name with
        | none => (none, reader)
        | some name =>
          let (number, reader) := reader.addAnchor name
          (some number, reader)
      let properties : Properties := ⟨tag, anchor⟩
      match reader.peek with
      | some (.scalar text plain) => return (.scalar text plain properties, reader.pass)
      | some .flowSequenceStart =>
        let (items, reader) ← flowItems fuel true reader.pass
        return (.sequence items properties, reader)
      | some .flowMappingStart =>
        let (fields, reader) ← flowFields fuel true reader.pass
        return (.mapping fields properties, reader)
      | token =>
        if indentless ∧ token = some .blockEntry then
          let (items, reader) ← indentlessItems fuel reader
          return (.sequence items properties, reader)
        else if block ∧ token = some .blockSequenceStart then
          let (items, reader) ← blockItems fuel reader.pass
          return (.sequence items properties, reader)
        else if block ∧ token = some .blockMappingStart then
          let (fields, reader) ← blockFields fuel reader.pass
          return (.mapping fields properties, reader)
        else if name.isSome ∨ tag.isSome then return (.scalar "" true properties, reader)
        else throw .unexpectedToken

/-- Read a node of a block, or nothing before one of the stops. -/
def blockPart : (fuel : Nat) → (indentless : Bool) → (stops : List Token) → NodeReader →
    Except Problem (Node × NodeReader)
  | 0, _, _, _ => .error .unexpectedToken
  | fuel + 1, indentless, stops, reader =>
    if reader.sees stops then .ok (.empty, reader) else node fuel true indentless reader

/-- Read the items of a block sequence. -/
def blockItems : (fuel : Nat) → NodeReader → Except Problem (List Node × NodeReader)
  | 0, _ => .error .unexpectedToken
  | fuel + 1, reader =>
    match reader.peek with
    | some .blockEntry => do
      let (item, reader) ← blockPart fuel false entryStops reader.pass
      let (items, reader) ← blockItems fuel reader
      return (item :: items, reader)
    | some .blockEnd => .ok ([], reader.pass)
    | _ => .error .unexpectedToken

/-- Read the items of a block sequence that is not indented. -/
def indentlessItems : (fuel : Nat) → NodeReader → Except Problem (List Node × NodeReader)
  | 0, _ => .error .unexpectedToken
  | fuel + 1, reader =>
    match reader.peek with
    | some .blockEntry => do
      let (item, reader) ← blockPart fuel false (.blockEntry :: fieldStops) reader.pass
      let (items, reader) ← indentlessItems fuel reader
      return (item :: items, reader)
    | _ => .ok ([], reader)

/-- Read the fields of a block mapping. -/
def blockFields : (fuel : Nat) → NodeReader → Except Problem (List (Node × Node) × NodeReader)
  | 0, _ => .error .unexpectedToken
  | fuel + 1, reader =>
    match reader.peek with
    | some .key => do
      let (name, reader) ← blockPart fuel true fieldStops reader.pass
      let (value, reader) ←
        if reader.sees [.value] then blockPart fuel true fieldStops reader.pass
        else pure (.empty, reader)
      let (fields, reader) ← blockFields fuel reader
      return ((name, value) :: fields, reader)
    | some .blockEnd => .ok ([], reader.pass)
    | _ => .error .unexpectedToken

/-- Read a node of a flow collection, or nothing before one of the stops. -/
def flowPart : (fuel : Nat) → (stops : List Token) → NodeReader →
    Except Problem (Node × NodeReader)
  | 0, _, _ => .error .unexpectedToken
  | fuel + 1, stops, reader =>
    if reader.sees stops then .ok (.empty, reader) else node fuel false false reader

/-- Read the value behind a key of a flow collection, if it is written. -/
def flowValue : (fuel : Nat) → (ending : Token) → NodeReader →
    Except Problem (Node × NodeReader)
  | 0, _, _ => .error .unexpectedToken
  | fuel + 1, ending, reader =>
    if reader.sees [.value] then flowPart fuel [.flowEntry, ending] reader.pass
    else .ok (.empty, reader)

/-- Read the items of a flow sequence. An item with a key is a mapping with one
field. -/
def flowItems : (fuel : Nat) → (first : Bool) → NodeReader →
    Except Problem (List Node × NodeReader)
  | 0, _, _ => .error .unexpectedToken
  | fuel + 1, first, reader =>
    if reader.sees [.flowSequenceEnd] then .ok ([], reader.pass)
    else do
      let reader ←
        if first then pure reader
        else if reader.sees [.flowEntry] then pure reader.pass
        else throw .unexpectedToken
      if reader.sees [.flowSequenceEnd] then return ([], reader.pass)
      else
        let (item, reader) ←
          if reader.sees [.key] then do
            let (name, reader) ←
              flowPart fuel [.value, .flowEntry, .flowSequenceEnd] reader.pass
            let (value, reader) ← flowValue fuel .flowSequenceEnd reader
            pure (.mapping [(name, value)] {}, reader)
          else node fuel false false reader
        let (items, reader) ← flowItems fuel false reader
        return (item :: items, reader)

/-- Read the fields of a flow mapping. -/
def flowFields : (fuel : Nat) → (first : Bool) → NodeReader →
    Except Problem (List (Node × Node) × NodeReader)
  | 0, _, _ => .error .unexpectedToken
  | fuel + 1, first, reader =>
    if reader.sees [.flowMappingEnd] then .ok ([], reader.pass)
    else do
      let reader ←
        if first then pure reader
        else if reader.sees [.flowEntry] then pure reader.pass
        else throw .unexpectedToken
      if reader.sees [.flowMappingEnd] then return ([], reader.pass)
      else
        let (field, reader) ←
          if reader.sees [.key] then do
            let (name, reader) ←
              flowPart fuel [.value, .flowEntry, .flowMappingEnd] reader.pass
            let (value, reader) ← flowValue fuel .flowMappingEnd reader
            pure ((name, value), reader)
          else do
            let (name, reader) ← node fuel false false reader
            pure ((name, .empty), reader)
        let (fields, reader) ← flowFields fuel false reader
        return (field :: fields, reader)

end

/-- The tag handles that every document knows. -/
def standardHandles : List (String × Tag) :=
  [("!", .ofText "!"), ("!!", .ofText "tag:yaml.org,2002:")]

/-- Read the directives before a document: at most one version, which must be
1.1 or 1.2, and no tag handle twice. -/
def directives : (versioned : Bool) → (handles : List (String × Tag)) → List Token →
    Except Problem (List (String × Tag) × List Token)
  | versioned, handles, .versionDirective major minor :: tokens =>
    if versioned ∨ major ≠ 1 ∨ (minor ≠ 1 ∧ minor ≠ 2) then .error .badDirective
    else directives true handles tokens
  | versioned, handles, .tagDirective handle expansion :: tokens =>
    if (handles.lookup handle).isSome then .error .badDirective
    else directives versioned (handles ++ [(handle, expansion)]) tokens
  | _, handles, tokens => .ok (handles, tokens)

/-- Only document ends follow. -/
def isFinished (tokens : List Token) : Bool := tokens.all (· == .documentEnd)

/-- Read the one document of a sequence of tokens; nothing at all is no
document. -/
def document (tokens : List Token) : Except Problem (Option Node) := do
  if tokens.isEmpty then return none
  let fuel := 3 * tokens.length + 3
  let (handles, rest) ← directives false [] tokens
  let explicit := rest.head? = some .documentStart
  if !explicit ∧ rest.length < tokens.length then throw .badDirective
  let reader : NodeReader :=
    { tokens := if explicit then rest.tail else rest
      handles := handles ++ standardHandles }
  let (root, reader) ←
    if explicit ∧ (reader.tokens.isEmpty ∨
        reader.tokens.head?.any fun
          | .versionDirective _ _ | .tagDirective _ _ | .documentStart | .documentEnd => true
          | _ => false) then
      pure (.empty, reader)
    else node fuel true false reader
  if isFinished reader.tokens then return some root else throw .severalDocuments

end NodeReader

/-- **The document of a text**, if it holds one. -/
def document (text : String) : Except Problem (Option Node) := do
  NodeReader.document (← tokens text)

end Enclosure.Yaml
