import Enclosure.Node
import Mathlib.Tactic.SplitIfs

/-!
# Text inside text

When one piece of text lies inside another, its lines need not: a piece without
width at the start of a line occupies that line, and the text around it that ends
there does not. What always holds is that the inner piece spreads over no more
lines (`Node.size_span_le_of_within`), because the piece that sticks out is one
line long.
-/

set_option autoImplicit false

namespace Enclosure

theorem Position.le_iff_toNat {earlier later : Position} :
    earlier ≤ later ↔ earlier.line.toNat < later.line.toNat ∨
      earlier.line.toNat = later.line.toNat ∧ earlier.column.toNat ≤ later.column.toNat := by
  rw [UInt32.toNat_inj]
  exact Iff.rfl

theorem Position.le_trans {first second third : Position} (earlier : first ≤ second)
    (later : second ≤ third) : first ≤ third := by
  rw [le_iff_toNat] at earlier later ⊢
  omega

namespace LineSpan

/-- The first line, counted without bounds. -/
theorem toNat_first_ofPositions (start stop : Position) :
    (ofPositions start stop).first.toNat = start.line.toNat + 1 := by
  have bound := start.line.toNat_lt
  rw [ofPositions, UInt64.toNat_add, UInt32.toNat_toUInt64, UInt64.toNat_one]
  omega

/-- The last line, counted without bounds. -/
theorem toNat_last_ofPositions (start stop : Position) :
    (ofPositions start stop).last.toNat =
      if stop.column.toNat = 0 ∧ start.line.toNat < stop.line.toNat then stop.line.toNat
      else stop.line.toNat + 1 := by
  have bound := stop.line.toNat_lt
  have column : stop.column = 0 ↔ stop.column.toNat = 0 := by
    rw [← UInt32.toNat_inj, UInt32.toNat_zero]
  simp only [ofPositions, column, UInt32.lt_iff_toNat_lt]
  split_ifs
  · rw [UInt32.toNat_toUInt64]
  · rw [UInt64.toNat_add, UInt32.toNat_toUInt64, UInt64.toNat_one]
    omega

end LineSpan

namespace Node

/-- One node's text lies inside another's. -/
def Within (outer inner : Node) : Prop := outer.start ≤ inner.start ∧ inner.stop ≤ outer.stop

instance (outer inner : Node) : Decidable (outer.Within inner) :=
  inferInstanceAs (Decidable (_ ∧ _))

theorem within_refl (node : Node) : Within node node := by
  refine ⟨Position.le_iff_toNat.mpr ?_, Position.le_iff_toNat.mpr ?_⟩ <;> omega

theorem within_trans {outer middle inner : Node} (first : Within outer middle)
    (second : Within middle inner) : Within outer inner := by
  simp only [Within, Position.le_iff_toNat] at first second ⊢
  omega

/-- **Text inside other text spreads over no more lines.** -/
theorem size_span_le_of_within {outer inner : Node} (within : Within outer inner) :
    inner.span.size ≤ outer.span.size := by
  obtain ⟨starts, stops⟩ := within
  rw [Position.le_iff_toNat] at starts stops
  simp only [LineSpan.size, span, LineSpan.toNat_first_ofPositions,
    LineSpan.toNat_last_ofPositions]
  split_ifs <;> omega

end Node

end Enclosure
