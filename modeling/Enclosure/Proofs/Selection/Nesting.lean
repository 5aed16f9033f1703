import Enclosure.Proofs.LineSpan.Containment
import Enclosure.Proofs.Selection.Ancestry

/-!
# Lookups in trees whose texts are nested

In the tree of a parsed text, the text of every child lies inside the text of its
parent. In such a tree the policies mean what they say: the answer under the
outermost policy is a candidate with no candidate above it, and under the innermost
policy one with no candidate below it (`Selection.resolve_of_nested`).

This is not because lines are nested like texts. They are not: a child without width
at the start of the line behind its parent has a line of its own. But text inside
other text never spreads over more lines, which is all that a comparison of sizes
needs; and on equal sizes the pre-order and the tie-break decide for the parent or
for the child, as the policy wants it.
-/

set_option autoImplicit false

namespace Enclosure

/-- The text of every child lies inside the text of its parent. -/
def Tree.Nested (tree : Tree) : Prop :=
  ∀ parent ∈ tree.preorder, ∀ child ∈ parent.children, parent.Within child

instance (tree : Tree) : Decidable tree.Nested :=
  inferInstanceAs (Decidable (∀ parent ∈ tree.preorder, ∀ child ∈ parent.children,
    parent.Within child))

namespace Selection

theorem shrinks_of_nested {tree : Tree} (nested : tree.Nested) (selection : Selection)
    (range : LineRange) : selection.Shrinks range tree := by
  intro above path outer inner isAbove outerStands innerStands _ _
  have within : outer.Within inner :=
    Tree.relates_of_prefix Node.Within Node.within_refl (fun _ _ _ => Node.within_trans) nested
      isAbove outerStands innerStands
  exact Node.size_span_le_of_within within

/-- **In a tree of nested texts, the outermost answer has no candidate above it and
the innermost answer has none below it**, although a child of nested texts can have a
line that its parent does not have. -/
theorem resolve_of_nested :
    (∀ tree : Tree, tree.Nested → ∀ (selection : Selection) (range : LineRange) unit,
      (selection.resolve tree range).value = some unit →
      ∃ path node, tree.at? path = some node ∧ selection.isCandidate range node = true ∧
        unit = node.unit ∧
        (selection.policy = .outermost → selection.NoneAbove range tree path) ∧
        (selection.policy = .innermost → selection.NoneBelow range tree path)) ∧
    ∃ parent child : Node, child ∈ parent.children ∧ Tree.Nested (some parent) ∧
      parent.start ≤ parent.stop ∧ child.start ≤ child.stop ∧
      parent.span.last < child.span.first := by
  constructor
  · intro tree nested selection range unit found
    exact exists_place_of_resolve (shrinks_of_nested nested selection range) found
  · refine ⟨⟨"block", ⟨0, 0⟩, ⟨2, 0⟩, false, [⟨"end", ⟨2, 0⟩, ⟨2, 0⟩, true, []⟩]⟩,
      ⟨"end", ⟨2, 0⟩, ⟨2, 0⟩, true, []⟩, List.mem_cons_self, ?_⟩
    decide +kernel

/-- A class on lines 1 to 4 holds a method and, behind its last line, a function that
was made up to repair the text. The innermost answer for that line is the function,
which nothing encloses there. -/
theorem resolve_of_class_with_method :
    let method : Node := ⟨"function_definition", ⟨1, 2⟩, ⟨4, 0⟩, false, []⟩
    let repair : Node := ⟨"function_definition", ⟨4, 0⟩, ⟨4, 0⟩, true, []⟩
    let tree : Tree := some ⟨"class_definition", ⟨0, 0⟩, ⟨4, 0⟩, false, [method, repair]⟩
    let selection : Selection := ⟨.standard, .innermost⟩
    let range : LineRange := ⟨5, 5, by decide, by decide⟩
    tree.Nested ∧ (selection.resolve tree range).value = some repair.unit ∧
      ∃ path node, tree.at? path = some node ∧ selection.isCandidate range node = true ∧
        repair.unit = node.unit ∧
        (selection.policy = .outermost → selection.NoneAbove range tree path) ∧
        (selection.policy = .innermost → selection.NoneBelow range tree path) := by
  intro method repair tree selection range
  have nested : tree.Nested := by decide +kernel
  have found : (selection.resolve tree range).value = some repair.unit := by decide +kernel
  exact ⟨nested, found, resolve_of_nested.1 tree nested selection range repair.unit found⟩

end Selection

end Enclosure
