import Enclosure.Yaml.Tag

/-!
# Tokens

A YAML text is a sequence of tokens. Three of them are not written: the start of
a block sequence, the start of a block mapping and the end of either are read off
the indentation.
-/

set_option autoImplicit false

namespace Enclosure.Yaml

/-- A token of a YAML text. -/
inductive Token where
  | documentStart
  | documentEnd
  | versionDirective (major minor : Nat)
  | tagDirective (handle : String) (expansion : Tag)
  | blockSequenceStart
  | blockMappingStart
  | blockEnd
  | flowSequenceStart
  | flowSequenceEnd
  | flowMappingStart
  | flowMappingEnd
  | blockEntry
  | flowEntry
  | key
  | value
  | reference (name : String)
  | anchor (name : String)
  | tag (handle : String) (rest : Tag)
  /-- A scalar, and whether it is written without quotes or a block header. -/
  | scalar (text : String) (plain : Bool)
deriving DecidableEq

end Enclosure.Yaml
