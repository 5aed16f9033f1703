import Enclosure.LineRange
import Enclosure.Position

/-!
# The lines a piece of source text occupies

A piece of text runs from a start position up to, but not including, an end
position. The lines it occupies are counted from one. When the text ends at the
very start of a line, that line holds none of it: the span stops one line
earlier, unless the text also starts there. This is the only correction needed,
because a text that ends at a later column has at least one character on its
last line.

Lines are 64-bit words and positions have 32-bit lines, so the additions below
cannot wrap.
-/

set_option autoImplicit false

namespace Enclosure

/-- Lines `first` to `last`, counted from one; empty when `last < first`. -/
structure LineSpan where
  first : UInt64
  last : UInt64
deriving DecidableEq, Inhabited

namespace LineSpan

/-- The lines occupied by the text between two positions. -/
def ofPositions (start stop : Position) : LineSpan where
  first := start.line.toUInt64 + 1
  last :=
    if stop.column = 0 ∧ start.line < stop.line then stop.line.toUInt64
    else stop.line.toUInt64 + 1

/-- How many lines lie between the first and the last; zero for an empty span. -/
def size (span : LineSpan) : Nat := span.last.toNat - span.first.toNat

/-- The span covers every line of the range. -/
def contains (span : LineSpan) (range : LineRange) : Bool :=
  span.first ≤ range.first && range.last ≤ span.last

end LineSpan

/-- A line, as an answer writes it. -/
structure LineMark where
  line : UInt64
deriving DecidableEq, Inhabited

/-- A first and a last line, as an answer writes them. -/
structure Extent where
  first : LineMark
  last : LineMark
deriving DecidableEq, Inhabited

/-- The two ends of a span. -/
def LineSpan.extent (span : LineSpan) : Extent := ⟨⟨span.first⟩, ⟨span.last⟩⟩

end Enclosure
