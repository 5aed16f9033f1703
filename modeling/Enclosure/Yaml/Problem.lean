/-!
# Why a YAML text is refused

A text can fail as text (its characters, its tokens), as a document (its
nodes), or as data (its shape). `Problem` names the rule that was broken.
-/

set_option autoImplicit false

namespace Enclosure.Yaml

/-- The rule that a YAML text breaks. -/
inductive Problem where
  /-- A control character stands in the text. -/
  | forbiddenCharacter
  /-- No token starts with the character found. -/
  | strayCharacter
  /-- A key that its indentation makes obligatory has no colon. -/
  | unfinishedKey
  /-- A block entry, key or value stands where none may start. -/
  | misplacedIndicator
  /-- A directive is unknown, ill-formed, repeated or of another version. -/
  | badDirective
  /-- An anchor or alias has no name or runs into other text. -/
  | badAnchor
  /-- A tag is ill-formed or uses an undeclared handle. -/
  | badTag
  /-- The header of a block scalar is ill-formed. -/
  | badBlockHeader
  /-- A tab stands where indentation is expected. -/
  | tabIndentation
  /-- A quoted scalar is not closed. -/
  | unclosedQuote
  /-- An escape sequence is unknown or names no character. -/
  | badEscape
  /-- A colon inside a flow collection touches another indicator. -/
  | strayColon
  /-- Another token was expected. -/
  | unexpectedToken
  /-- An alias names no anchor before it. -/
  | undefinedAlias
  /-- The text holds more than one document. -/
  | severalDocuments
  /-- References make the text stand for far more than is written. -/
  | tooManyReferences
  /-- A node does not have the shape that its place asks for. -/
  | wrongShape
  /-- A mapping has a field that its place does not declare. -/
  | unknownField (name : String)
  /-- A mapping gives a field twice. -/
  | repeatedField (name : String)
  /-- A scalar does not name one of the alternatives of its place. -/
  | unknownVariant (name : String)
deriving DecidableEq

/-- The wording of a problem. -/
def Problem.message : Problem → String
  | forbiddenCharacter => "control characters are not allowed"
  | strayCharacter => "found character that cannot start any token"
  | unfinishedKey => "could not find expected ':'"
  | misplacedIndicator => "an entry, key or value is not allowed in this context"
  | badDirective => "found an invalid directive"
  | badAnchor => "found an invalid anchor or alias"
  | badTag => "found an invalid tag"
  | badBlockHeader => "found an invalid block scalar header"
  | tabIndentation => "found a tab character where indentation is expected"
  | unclosedQuote => "found unexpected end of a quoted scalar"
  | badEscape => "found an invalid escape sequence"
  | strayColon => "found unexpected ':'"
  | unexpectedToken => "did not find the expected token"
  | undefinedAlias => "found an undefined alias"
  | severalDocuments => "found more than one document"
  | tooManyReferences => "followed too many aliases"
  | wrongShape => "found a value of an unexpected type"
  | unknownField name => s!"unknown field '{name}'"
  | repeatedField name => s!"duplicate field '{name}'"
  | unknownVariant name => s!"unknown variant '{name}'"

end Enclosure.Yaml
