import Enclosure.Proofs.Selection.Lineage
import Enclosure.Proofs.Selection.Nesting
import Mathlib.Tactic.MkIffOfInductiveProp

/-!
# When the lines of nested texts are nested

Text inside other text need not occupy lines inside the lines of the other text. The
last line of a text depends on where the text starts: one that ends at the start of a
line stops a line earlier, unless it starts there as well. So a text that ends at the
start of a line, behind the line on which it starts, does not hold that line, and a text
without width at the same place does (`Node.Overhangs`).

This is the only way out (`LineSpan.covers_ofPositions_iff`). Texts in a tree are nested
along every path, so the same exception is the only one between a node and everything
below it (`Tree.spans_nested_up_to_overhangs`), at any depth.
-/

set_option autoImplicit false

namespace Enclosure

namespace LineSpan

/-- Every line of the inner span is a line of the outer one. -/
def Covers (outer inner : LineSpan) : Prop := ∀ line, inner.Holds line → outer.Holds line

/-- A text that runs forward occupies at least one line. -/
theorem first_le_last_ofPositions {start stop : Position} (forward : start ≤ stop) :
    (ofPositions start stop).first.toNat ≤ (ofPositions start stop).last.toNat := by
  rw [Position.le_iff_toNat] at forward
  rw [toNat_first_ofPositions, toNat_last_ofPositions]
  split_ifs <;> omega

/-- A span with at least one line is covered when its first and its last line are. -/
theorem covers_iff_toNat {outer inner : LineSpan}
    (someLine : inner.first.toNat ≤ inner.last.toNat) :
    outer.Covers inner ↔
      outer.first.toNat ≤ inner.first.toNat ∧ inner.last.toNat ≤ outer.last.toNat := by
  rw [Covers, holds_imp_holds_iff, UInt64.lt_iff_toNat_lt, UInt64.le_iff_toNat_le,
    UInt64.le_iff_toNat_le]
  exact or_iff_right (Nat.not_lt.mpr someLine)

end LineSpan

theorem Position.eq_iff_toNat {first second : Position} :
    first = second ↔
      first.line.toNat = second.line.toNat ∧ first.column.toNat = second.column.toNat := by
  rw [UInt32.toNat_inj, UInt32.toNat_inj]
  cases first
  cases second
  exact Iff.of_eq (Position.mk.injEq ..)

/-- **Text inside other text has its lines inside the lines of the other**, unless the
outer text ends at the start of a line that it does not start on and the inner text has
no width and stands there. -/
theorem LineSpan.covers_ofPositions_iff {start stop innerStart innerStop : Position}
    (innerForward : innerStart ≤ innerStop) (starts : start ≤ innerStart)
    (stops : innerStop ≤ stop) :
    (ofPositions start stop).Covers (ofPositions innerStart innerStop) ↔
      ¬ (stop.column = 0 ∧ start.line < stop.line ∧ innerStart = stop ∧ innerStop = stop) := by
  have column : stop.column = 0 ↔ stop.column.toNat = 0 := by
    rw [← UInt32.toNat_inj, UInt32.toNat_zero]
  rw [covers_iff_toNat (first_le_last_ofPositions innerForward), toNat_first_ofPositions,
    toNat_first_ofPositions, toNat_last_ofPositions, toNat_last_ofPositions, column,
    UInt32.lt_iff_toNat_lt, Position.eq_iff_toNat, Position.eq_iff_toNat]
  rw [Position.le_iff_toNat] at innerForward starts stops
  split_ifs <;> omega

namespace Node

/-- A node without width stands at the very end of another, which is the start of a line
behind the one on which the other starts. -/
@[mk_iff]
structure Overhangs (inner outer : Node) : Prop where
  atLineStart : outer.stop.column = 0
  laterLine : outer.start.line < outer.stop.line
  starts : inner.start = outer.stop
  stops : inner.stop = outer.stop

instance (inner outer : Node) : Decidable (inner.Overhangs outer) :=
  decidable_of_iff _ (overhangs_iff inner outer).symm

theorem covers_span_iff {outer inner : Node} (forward : inner.start ≤ inner.stop)
    (within : outer.Within inner) : outer.span.Covers inner.span ↔ ¬ inner.Overhangs outer := by
  rw [overhangs_iff]
  exact LineSpan.covers_ofPositions_iff forward within.1 within.2

/-- A node that overhangs another occupies exactly the line behind the other's last. -/
theorem Overhangs.span_toNat {inner outer : Node} (overhangs : inner.Overhangs outer) :
    inner.span.first.toNat = outer.span.last.toNat + 1 ∧
      inner.span.last.toNat = outer.span.last.toNat + 1 := by
  obtain ⟨atLineStart, laterLine, starts, stops⟩ := overhangs
  have column : outer.stop.column.toNat = 0 := by rw [atLineStart, UInt32.toNat_zero]
  rw [UInt32.lt_iff_toNat_lt] at laterLine
  rw [span, span, starts, stops, LineSpan.toNat_first_ofPositions,
    LineSpan.toNat_last_ofPositions, LineSpan.toNat_last_ofPositions, if_pos ⟨column, laterLine⟩,
    if_neg (fun both => Nat.lt_irrefl _ both.2)]
  exact ⟨rfl, rfl⟩

end Node

namespace Tree

/-- Every node ends no earlier than it starts. -/
def Forward (tree : Tree) : Prop := ∀ node ∈ tree.preorder, node.start ≤ node.stop

instance (tree : Tree) : Decidable tree.Forward :=
  inferInstanceAs (Decidable (∀ node ∈ tree.preorder, node.start ≤ node.stop))

/-- **The lines of a node hold the lines of everything below it, up to overhangs.** For
two texts of which one lies inside the other, the outer one covers the lines of the inner
one exactly when it is not the case that the outer text ends at column 0 of a line behind
the one on which it starts and the inner text has no width and stands there.

So in a tree of nested texts, a node covers the lines of a node below it, at any depth,
exactly when that node does not overhang it; and one that does occupies the line behind
the last line of the upper node, and no other. -/
theorem spans_nested_up_to_overhangs :
    (∀ start stop innerStart innerStop : Position, start ≤ stop → innerStart ≤ innerStop →
      start ≤ innerStart → innerStop ≤ stop →
      ((LineSpan.ofPositions start stop).Covers (LineSpan.ofPositions innerStart innerStop) ↔
        ¬ (stop.column = 0 ∧ start.line < stop.line ∧
          innerStart = stop ∧ innerStop = stop))) ∧
    ∀ tree : Tree, tree.Nested → tree.Forward →
      ∀ above path outer inner, above <+: path → tree.at? above = some outer →
        tree.at? path = some inner →
        (outer.span.Covers inner.span ↔ ¬ inner.Overhangs outer) ∧
        (inner.Overhangs outer →
          inner.span.first.toNat = outer.span.last.toNat + 1 ∧
          inner.span.last.toNat = outer.span.last.toNat + 1) := by
  constructor
  · intro start stop innerStart innerStop _ innerForward starts stops
    exact LineSpan.covers_ofPositions_iff innerForward starts stops
  · intro tree nested forward above path outer inner isAbove outerStands innerStands
    have within : outer.Within inner :=
      relates_of_prefix Node.Within Node.within_refl (fun _ _ _ => Node.within_trans) nested
        isAbove outerStands innerStands
    have innerForward := forward inner (mem_preorder.mpr ⟨path, innerStands⟩)
    exact ⟨Node.covers_span_iff innerForward within, Node.Overhangs.span_toNat⟩

/-- A function whose block ends at the start of line 4 without its brace, which was made up
there. The function covers the statement in the block and not the brace; and the program
around it, which ends one line later, covers both. -/
theorem spans_nested_up_to_overhangs_of_unclosed_block :
    let brace : Node := ⟨"\x7d", ⟨3, 0⟩, ⟨3, 0⟩, true, []⟩
    let statement : Node := ⟨"return_statement", ⟨1, 2⟩, ⟨2, 9⟩, false, []⟩
    let block : Node := ⟨"statement_block", ⟨0, 13⟩, ⟨3, 0⟩, false, [statement, brace]⟩
    let function : Node := ⟨"function_declaration", ⟨0, 0⟩, ⟨3, 0⟩, false, [block]⟩
    let program : Node := ⟨"program", ⟨0, 0⟩, ⟨4, 0⟩, false, [function]⟩
    function.span.Covers statement.span ∧ ¬ function.span.Covers brace.span ∧
      brace.span.first.toNat = function.span.last.toNat + 1 ∧
      program.span.Covers brace.span := by
  intro brace statement block function program
  have nested : Tree.Nested (some program) := by decide +kernel
  have forward : Tree.Forward (some program) := by decide +kernel
  have lines := spans_nested_up_to_overhangs.2 (some program) nested forward
  have overhangs : brace.Overhangs function := by decide +kernel
  have fromStatement := lines [0] [0, 0, 0] function statement (by decide) rfl rfl
  have fromBrace := lines [0] [0, 0, 1] function brace (by decide) rfl rfl
  have fromProgram := lines [] [0, 0, 1] program brace (by decide) rfl rfl
  exact ⟨fromStatement.1.mpr (by decide +kernel), fun covers => fromBrace.1.mp covers overhangs,
    (fromBrace.2 overhangs).1, fromProgram.1.mpr (by decide +kernel)⟩

end Tree

end Enclosure
