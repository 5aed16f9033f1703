/-!
# Positions in a source text

A position is a pair of a line and a column, both counted from zero and both
32-bit words, which is how parsers report them. Positions are compared
lexicographically: first by line, then by column.
-/

set_option autoImplicit false

namespace Enclosure

/-- A place in a source text: a line and a column, both counted from zero. -/
structure Position where
  line : UInt32
  column : UInt32
deriving DecidableEq, Inhabited

namespace Position

/-- One position is at or before another in reading order. -/
instance : LE Position where
  le earlier later :=
    earlier.line < later.line ∨ (earlier.line = later.line ∧ earlier.column ≤ later.column)

/-- One position is strictly before another in reading order. -/
instance : LT Position where
  lt earlier later :=
    earlier.line < later.line ∨ (earlier.line = later.line ∧ earlier.column < later.column)

instance (earlier later : Position) : Decidable (earlier ≤ later) :=
  inferInstanceAs (Decidable (_ ∨ _))

instance (earlier later : Position) : Decidable (earlier < later) :=
  inferInstanceAs (Decidable (_ ∨ _))

end Position

end Enclosure
