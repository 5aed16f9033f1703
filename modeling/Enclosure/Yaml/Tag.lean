/-!
# Tags

A tag says what a node is meant to be. Escapes in a tag write single octets, so a
tag is a sequence of octets, which need not be the encoding of any text; an octet
zero ends it.

A tag that starts with an exclamation mark belongs to the application and names
one of its variants by what follows the mark. All other tags come from a common
stock; of those only the tag of nothing makes a difference to a settings text.
-/

set_option autoImplicit false

namespace Enclosure.Yaml

/-- A tag, or a part of one, by its octets. -/
structure Tag where
  octets : List UInt8
deriving DecidableEq

namespace Tag

/-- The tag with the octets of a text. -/
def ofText (text : String) : Tag := ⟨text.toUTF8.data.toList⟩

/-- The tag that octets write: what stands before the first zero. -/
def ofOctets (octets : List UInt8) : Tag := ⟨octets.takeWhile (· != 0)⟩

/-- Two parts of a tag together. -/
def append (first second : Tag) : Tag := ⟨first.octets ++ second.octets⟩

/-- The text whose encoding the tag is, if there is one. -/
def text? (tag : Tag) : Option String := String.fromUTF8? ⟨tag.octets.toArray⟩

/-- The tag of a value that is nothing. -/
def null : Tag := ofText "tag:yaml.org,2002:null"

/-- The variant that a tag names. An exclamation mark alone stands for itself. -/
def variant? (tag : Tag) : Option String := do
  match (← tag.text?).toList with
  | ['!'] => some "!"
  | '!' :: name => some (String.ofList name)
  | _ => none

end Tag

end Enclosure.Yaml
