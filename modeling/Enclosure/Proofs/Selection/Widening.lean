import Enclosure.Proofs.LineSpan.Containment
import Enclosure.Proofs.Selection.Ancestry

/-!
# Asking again for more lines

The answer to a lookup names lines of its own. They contain the lines that were asked
for, and whoever asks again for something in between gets the same answer: the range
can be widened up to the lines of the answer without changing it
(`Selection.resolve_of_widened`). So a caller that replaces its range by the lines of
the answer has reached a fixed point.

A wider range has fewer candidates, which are the ones of the narrower range that
reach far enough (`Selection.candidates_of_encloses`). The answer is among them. What
it replaced and what it withstood is a smaller part of the list than before, but it
stands where it stood, before and behind the same nodes (`Policy.Stands.filter`);
this is why ties are decided in the same way.
-/

set_option autoImplicit false

namespace Enclosure

/-- Every line of the inner range is a line of the outer one. -/
def LineRange.Encloses (outer inner : LineRange) : Prop :=
  outer.first ≤ inner.first ∧ inner.last ≤ outer.last

instance (outer inner : LineRange) : Decidable (outer.Encloses inner) :=
  inferInstanceAs (Decidable (_ ∧ _))

theorem LineRange.encloses_refl (range : LineRange) : range.Encloses range :=
  ⟨UInt64.le_rfl, UInt64.le_rfl⟩

namespace LineSpan

variable {span : LineSpan}

theorem contains_iff {range : LineRange} :
    span.contains range = true ↔ span.first ≤ range.first ∧ range.last ≤ span.last := by
  simp only [contains, Bool.and_eq_true, decide_eq_true_eq]

/-- What contains a range contains the ranges inside it. -/
theorem contains_of_encloses {outer inner : LineRange} (encloses : outer.Encloses inner)
    (contains : span.contains outer = true) : span.contains inner = true := by
  obtain ⟨starts, stops⟩ := contains_iff.mp contains
  exact contains_iff.mpr
    ⟨UInt64.le_trans starts encloses.1, UInt64.le_trans encloses.2 stops⟩

end LineSpan

/-- The lines of a node that contain a range are a range themselves. -/
theorem Node.exists_ofLines_of_contains {node : Node} {range : LineRange}
    (contains : node.span.contains range = true) :
    ∃ lines, LineRange.ofLines node.span.first node.span.last = .ok lines ∧
      lines.first = node.span.first ∧ lines.last = node.span.last ∧ lines.Encloses range := by
  obtain ⟨starts, stops⟩ := LineSpan.contains_iff.mp contains
  have ordered := UInt64.le_trans (UInt64.le_trans starts range.first_le_last) stops
  rcases LineRange.ofLines_cases node.span.first node.span.last with
    ⟨zero | reversed, -⟩ | ⟨-, lines, read, first, last⟩
  · have counted := LineSpan.toNat_first_ofPositions node.start node.stop
    rw [← span, zero, UInt64.toNat_zero] at counted
    omega
  · exact absurd ordered (UInt64.not_le.mpr reversed)
  · exact ⟨lines, read, first, last, by rwa [first], by rwa [last]⟩

/-- **The node left by a search is left by every search through fewer candidates of
which it is one.** -/
theorem Policy.Stands.filter {policy : Policy} {met : List Node} {best : Node}
    (stands : policy.Stands met (some best)) {keep : Node → Bool} (kept : keep best = true) :
    policy.Stands (met.filter keep) (some best) := by
  obtain ⟨before, after, rfl, replaces, withstands⟩ := stands.exists_split
  rw [List.filter_append, List.filter_cons_of_pos kept]
  refine .node (before.filter keep) (after.filter keep) best ?_ ?_
  · intro earlier member
    exact replaces earlier (List.mem_filter.mp member).1
  · intro later member
    exact withstands later (List.mem_filter.mp member).1

namespace Selection

variable {selection : Selection} {tree : Tree} {range : LineRange}

theorem mem_candidates {node : Node} :
    node ∈ selection.candidates tree range.first range.last ↔
      node ∈ tree.preorder ∧ selection.kinds.contains node.kind = true ∧
        node.span.contains range = true := by
  rw [← filter_isCandidate_preorder, List.mem_filter, isCandidate, Bool.and_eq_true]

/-- The candidates for a wider range are those for the narrower one that contain it. -/
theorem candidates_of_encloses {wide : LineRange} (encloses : wide.Encloses range) :
    selection.candidates tree wide.first wide.last =
      (selection.candidates tree range.first range.last).filter (·.span.contains wide) := by
  rw [← filter_isCandidate_preorder, ← filter_isCandidate_preorder, List.filter_filter]
  refine List.filter_congr fun node _ => ?_
  rw [isCandidate, isCandidate, Bool.eq_iff_iff]
  simp only [Bool.and_eq_true]
  constructor
  · rintro ⟨structural, contains⟩
    exact ⟨contains, structural, LineSpan.contains_of_encloses encloses contains⟩
  · rintro ⟨contains, structural, -⟩
    exact ⟨structural, contains⟩

/-- The node that a search leaves decides about its answer. -/
theorem resolve_of_stands {node : Node}
    (stands : selection.policy.Stands (selection.candidates tree range.first range.last)
      (some node)) : (selection.resolve tree range).value = some node.unit := by
  rw [resolve_value, ← stands.eq_choice? fun _ candidate =>
    selection.size_eq_reach range.first_le_last candidate, Option.map_some]

/-- Every answer is the unit of the node that a search leaves, which is a candidate. -/
theorem exists_stands_of_resolve {unit : StructuralUnit}
    (found : (selection.resolve tree range).value = some unit) :
    ∃ node, unit = node.unit ∧ node ∈ selection.candidates tree range.first range.last ∧
      selection.policy.Stands (selection.candidates tree range.first range.last) (some node) := by
  have stands := selection.stands_meetAll range tree
  rw [resolve_value, ← best_meetAll, Option.map_eq_some_iff] at found
  obtain ⟨node, left, rfl⟩ := found
  rw [left] at stands
  obtain ⟨before, after, split, -⟩ := stands.exists_split
  exact ⟨node, rfl, by rw [split]; simp, stands⟩

/-- **An answer stays the answer while the range is widened up to its lines.** The
lines of an answer are a range that encloses the one asked for, every range between
the two has the same answer, and so has the range of these lines itself. -/
theorem resolve_of_widened {selection : Selection} {tree : Tree} {range : LineRange}
    {unit : StructuralUnit} (found : (selection.resolve tree range).value = some unit) :
    ∃ lines, LineRange.ofLines unit.extent.first.line unit.extent.last.line = .ok lines ∧
      lines.Encloses range ∧
      (∀ between : LineRange, between.Encloses range → lines.Encloses between →
        (selection.resolve tree between).value = some unit) ∧
      (selection.resolve tree lines).value = some unit := by
  obtain ⟨node, rfl, candidate, stands⟩ := exists_stands_of_resolve found
  obtain ⟨lines, read, first, last, around⟩ :=
    Node.exists_ofLines_of_contains (mem_candidates.mp candidate).2.2
  have widened : ∀ between : LineRange, between.Encloses range → lines.Encloses between →
      (selection.resolve tree between).value = some node.unit := by
    intro between wider inside
    have contains : node.span.contains between = true :=
      LineSpan.contains_iff.mpr ⟨first ▸ inside.1, last ▸ inside.2⟩
    refine resolve_of_stands ?_
    rw [candidates_of_encloses wider]
    exact stands.filter contains
  exact ⟨lines, read, around, widened, widened lines around lines.encloses_refl⟩

/-- A function and its decoration have the same lines, 2 to 5. The policies answer with
different ones of them for line 3, and keep to their answers for lines 2 to 4 and for
lines 2 to 5. -/
theorem resolve_of_widened_line_three :
    let function : Node := ⟨"function_definition", ⟨1, 0⟩, ⟨5, 0⟩, false, []⟩
    let decorated : Node := ⟨"decorated_definition", ⟨1, 0⟩, ⟨4, 9⟩, false, [function]⟩
    let tree : Tree := some ⟨"module", ⟨0, 0⟩, ⟨6, 0⟩, false, [decorated]⟩
    let kinds : KindSet := .ofList ["decorated_definition", "function_definition"]
    let line : LineRange := ⟨3, 3, by decide, by decide⟩
    let wider : LineRange := ⟨2, 4, by decide, by decide⟩
    let widest : LineRange := ⟨2, 5, by decide, by decide⟩
    (((Selection.mk kinds .outermost).resolve tree line).value = some decorated.unit ∧
      ((Selection.mk kinds .outermost).resolve tree wider).value = some decorated.unit ∧
      ((Selection.mk kinds .outermost).resolve tree widest).value = some decorated.unit) ∧
    ((Selection.mk kinds .innermost).resolve tree line).value = some function.unit ∧
      ((Selection.mk kinds .innermost).resolve tree wider).value = some function.unit ∧
      ((Selection.mk kinds .innermost).resolve tree widest).value = some function.unit := by
  intro function decorated tree kinds line wider widest
  have outermost : ((Selection.mk kinds .outermost).resolve tree line).value =
      some decorated.unit := by decide +kernel
  have innermost : ((Selection.mk kinds .innermost).resolve tree line).value =
      some function.unit := by decide +kernel
  obtain ⟨outerLines, outerRead, -, outerBetween, outerFixed⟩ := resolve_of_widened outermost
  obtain ⟨innerLines, innerRead, -, innerBetween, innerFixed⟩ := resolve_of_widened innermost
  cases outerRead
  cases innerRead
  exact ⟨⟨outermost, outerBetween wider (by decide) (by decide +kernel), outerFixed⟩,
    innermost, innerBetween wider (by decide) (by decide +kernel), innerFixed⟩

end Selection

end Enclosure
