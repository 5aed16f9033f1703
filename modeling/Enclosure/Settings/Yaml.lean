import Enclosure.Settings
import Enclosure.Yaml.Document
import Enclosure.Yaml.Plain

/-!
# Settings from YAML text

A settings text is a mapping with the fields `policy` and `languages`, both of
which may be left out; so may the whole document. A value that is not written
counts as an empty mapping or sequence where one is expected. Any scalar will do
as a text. Fields that are not declared, and declared fields given twice, are
refused; of two overrides under one name the later counts.

A reference is followed every time that it is read, also inside what another one
repeats. So a short text could stand for a huge one, and the number of references
that are followed is limited in proportion to the size of the document.

After reading, the names of the languages are validated.
-/

set_option autoImplicit false

namespace Enclosure

namespace Yaml

/-- Reading data from a document. The state is how many references may still be
followed. -/
abbrev Reading (α : Type) : Type := StateT Nat (Except Problem) α

/-- A place in a document: a node, and what the references of the document
mean. -/
structure Place where
  meanings : List (Nat × Node)
  node : Node

namespace Place

/-- The place of the root of a document. -/
def ofRoot (root : Node) : Place := ⟨root.meanings, root⟩

/-- Another place in the same document. -/
def moveTo (place : Place) (node : Node) : Place := ⟨place.meanings, node⟩

/-- The place that is meant: where a reference leads, or the place itself. -/
def resolve (place : Place) : Reading Place :=
  match place.node with
  | .reference anchor => do
    match ← get with
    | 0 => throw .tooManyReferences
    | left + 1 =>
      set left
      return place.moveTo ((place.meanings.lookup anchor).getD place.node)
  | _ => return place

/-- The node counts as not written: a plain scalar without text. -/
def isUnwritten : Node → Bool
  | .scalar text plain _ => plain && text.isEmpty
  | _ => false

/-- The place holds a text. -/
def text (place : Place) : Reading String := do
  match (← place.resolve).node with
  | .scalar text _ _ => return text
  | _ => throw .wrongShape

/-- The places of the items of a sequence. -/
def items (place : Place) : Reading (List Place) := do
  match (← place.resolve).node with
  | .sequence items _ => return items.map place.moveTo
  | node => if isUnwritten node then return [] else throw .wrongShape

/-- The places of the names and values of a mapping. -/
def fields (place : Place) : Reading (List (Place × Place)) := do
  match (← place.resolve).node with
  | .mapping fields _ =>
    return fields.map fun (name, value) => (place.moveTo name, place.moveTo value)
  | node => if isUnwritten node then return [] else throw .wrongShape

/-- The place holds a list of texts. -/
def texts (place : Place) : Reading (List String) := do
  (← place.items).mapM text

/-- The node is nothing: a plain scalar that is not written or spells null,
without a tag or tagged as null. A scalar tagged as null must spell it. -/
def isNothing : Node → Except Problem Bool
  | .scalar text true properties =>
    match properties.tag with
    | none => .ok (text.isEmpty || isNullText text)
    | some tag =>
      if tag = Tag.null then
        if isNullText text then .ok true else .error .wrongShape
      else .ok false
  | _ => .ok false

/-- The place holds a list of texts or nothing. -/
def optionalTexts (place : Place) : Reading (Option (List String)) := do
  let place ← place.resolve
  if ← isNothing place.node then return none else return some (← place.texts)

/-- The place names one of several alternatives: by a tag, behind which nothing
may stand but a spelling of null, or by its text. -/
def choice {α : Type} (place : Place) (named : String → Option α) : Reading α := do
  let pick (name : String) : Reading α :=
    match named name with
    | some found => return found
    | none => throw (.unknownVariant name)
  let node := (← place.resolve).node
  match node.properties.tag.bind Tag.variant?, node with
  | some name, .scalar text plain _ =>
    let found ← pick name
    if plain && (text.isEmpty || isNullText text) then return found else throw .wrongShape
  | some name, _ =>
    let _ ← pick name
    throw .wrongShape
  | none, .scalar text _ _ => pick text
  | none, _ => throw .wrongShape

/-- The places of the declared fields of a mapping, by name. A field that is not
declared or is given twice is refused. -/
def declared (names : List String) :
    List (Place × Place) → Reading (List (String × Place))
  | [] => return []
  | (name, value) :: fields => do
    let name ← name.text
    if !names.contains name then throw (.unknownField name)
    let rest ← declared names fields
    if (rest.lookup name).isSome then throw (.repeatedField name)
    return (name, value) :: rest

end Place

end Yaml

open Yaml (Place)

/-- The adjustments for one language at a place. -/
def Override.ofPlace (place : Place) : Yaml.Reading Override := do
  let fields ← Place.declared ["structural_kinds", "extra_kinds"] (← place.fields)
  let structural ←
    match fields.lookup "structural_kinds" with
    | none => pure none
    | some place => place.optionalTexts
  let extra ←
    match fields.lookup "extra_kinds" with
    | none => pure []
    | some place => place.texts
  return ⟨structural, extra⟩

/-- A named override at two places. -/
def OverrideTable.entryOfPlaces (field : Place × Place) :
    Yaml.Reading (String × Override) := do
  return (← field.1.text, ← Override.ofPlace field.2)

/-- Overrides by name at a place. -/
def OverrideTable.ofPlace (place : Place) : Yaml.Reading OverrideTable := do
  return ofList (← (← place.fields).mapM entryOfPlaces)

/-- Settings at a place. -/
def Settings.ofPlace (place : Place) : Yaml.Reading Settings := do
  let fields ← Place.declared ["policy", "languages"] (← place.fields)
  let policy ←
    match fields.lookup "policy" with
    | none => pure .outermost
    | some place => place.choice Policy.ofName?
  let languages ←
    match fields.lookup "languages" with
    | none => pure .empty
    | some place => OverrideTable.ofPlace place
  return ⟨policy, languages⟩

/-- How many references may be followed for each unit of the size of a
document. -/
def Yaml.referencesPerUnit : Nat := 100

/-- Settings as written in a text, not validated. -/
def Settings.readYaml (text : String) : Except Yaml.Problem Settings := do
  match ← Yaml.document text with
  | none => return {}
  | some root =>
    (Settings.ofPlace (Place.ofRoot root)).run' (Yaml.referencesPerUnit * root.size)

/-- **Settings from a text**, validated. -/
def Settings.ofYaml (text : String) : Except Fault Settings :=
  match Settings.readYaml text with
  | .error problem => .error (.settings (.malformed problem))
  | .ok settings =>
    match settings.validate with
    | .error problem => .error (.settings problem)
    | .ok () => .ok settings

end Enclosure
