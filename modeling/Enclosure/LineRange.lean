import Enclosure.Fault

/-!
# Ranges of lines

A query names a range of lines by its first and last line, counted from one.
A pair of numbers names a range when the first is at least one and does not
exceed the last; `LineRange` carries both facts, so that everything downstream
can rely on them.
-/

set_option autoImplicit false

namespace Enclosure

/-- A non-empty range of lines, counted from one, both ends included. -/
structure LineRange where
  first : UInt64
  last : UInt64
  one_le_first : 1 ≤ first
  first_le_last : first ≤ last
deriving DecidableEq

/-- The range from `first` to `last`, if the two numbers name one. -/
def LineRange.ofLines (first last : UInt64) : Except Fault LineRange :=
  if one_le_first : 1 ≤ first then
    if first_le_last : first ≤ last then
      .ok ⟨first, last, one_le_first, first_le_last⟩
    else .error (.invalidRange first last)
  else .error (.invalidRange first last)

end Enclosure
