/-!
# The character classes of YAML

Line breaks, blanks, and the characters that may appear in a text at all. A text
may hold no control character but the tab and the breaks; what a writer leaves
unescaped is narrower still, because a tab, a carriage return or a byte-order
mark would be hard to see.
-/

set_option autoImplicit false

namespace Enclosure.Yaml

/-- The character ends a line. -/
def isBreak (c : Char) : Bool :=
  c = '\n' || c = '\r' || c = '\u0085' || c = '\u2028' || c = '\u2029'

/-- The character is a space or a tab. -/
def isBlank (c : Char) : Bool := c = ' ' || c = '\t'

/-- The text is at its end, at a line break, or at a blank. -/
def atSpace : List Char → Bool
  | [] => true
  | c :: _ => isBlank c || isBreak c

/-- The text is at its end or at a line break. -/
def atLineEnd : List Char → Bool
  | [] => true
  | c :: _ => isBreak c

/-- The character may appear in a text that is read. -/
def isAllowed (c : Char) : Bool :=
  c = '\t' || c = '\n' || c = '\r' || (' ' ≤ c && c ≤ '~') || c = '\u0085'
    || ('\u00a0' ≤ c && c ≤ '\ufffd') || 0x10000 ≤ c.toNat

/-- The character is written as itself. -/
def isPlainlyPrinted (c : Char) : Bool :=
  c = '\n' || (' ' ≤ c && c ≤ '~') || ('\u00a0' ≤ c && c ≤ '\ufffd' && c ≠ '\ufeff')
    || 0x10000 ≤ c.toNat

/-- The character may be part of the name of an anchor, a tag handle or a
directive. -/
def isNameChar (c : Char) : Bool := c.isAlphanum || c = '_' || c = '-'

end Enclosure.Yaml
