/-!
# Letter case

Names of languages, policies and file extensions are compared without regard
to the case of the letters A to Z. No other character is folded: `É` and `é`
are different letters here.
-/

set_option autoImplicit false

namespace Enclosure.Text

/-- The text with the letters A to Z in lower case. -/
def lower (text : String) : String := String.ofList (text.toList.map Char.toLower)

/-- Two texts agree up to the case of the letters A to Z. -/
def sameLetters (left right : String) : Bool := lower left == lower right

end Enclosure.Text
