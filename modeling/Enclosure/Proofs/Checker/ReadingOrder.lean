import Enclosure.Proofs.Checker.Agreement
import Enclosure.Proofs.LineSpan.Containment
import Enclosure.Proofs.Tree.Paths
import Mathlib.Data.List.Chain

/-!
# Errors in the order of the text

A checker lists errors in the order in which a walk meets their nodes. In the tree of a
parsed text this is also the order in which a reader meets them: children lie inside
their parents and follow each other, so nodes that come later in the pre-order start no
earlier in the text (`Tree.pairwise_start_preorder`).

Two nodes of different subtrees are compared through the siblings above them. The first
lies inside a sibling that ends where the next one starts or before, and the second
starts no earlier than that one. A node without width may start and end where both meet,
which is why starts can be equal but never fall back.
-/

set_option autoImplicit false

namespace Enclosure

namespace Node

/-- The text of the node runs forward, the texts of its children lie inside it, and every
child ends no later than the next one starts. -/
structure InOrder (node : Node) : Prop where
  forward : node.start ≤ node.stop
  inside : ∀ child ∈ node.children, node.Within child
  follows : node.children.IsChain fun child next => child.stop ≤ next.start

instance (node : Node) : Decidable node.InOrder :=
  decidable_of_iff
    (node.start ≤ node.stop ∧ (∀ child ∈ node.children, node.Within child) ∧
      node.children.IsChain fun child next => child.stop ≤ next.start)
    ⟨fun ⟨forward, inside, follows⟩ => ⟨forward, inside, follows⟩,
      fun ordered => ⟨ordered.forward, ordered.inside, ordered.follows⟩⟩

/-- Everything in the subtree of a node is in order. -/
def AllInOrder (node : Node) : Prop := ∀ found ∈ node.preorder, found.InOrder

theorem AllInOrder.child {node child : Node} (ordered : node.AllInOrder)
    (member : child ∈ node.children) : child.AllInOrder := fun found below =>
  ordered found (preorder_subset_of_mem_children member below)

theorem AllInOrder.inOrder {node : Node} (ordered : node.AllInOrder) : node.InOrder :=
  ordered node (mem_preorder.mpr ⟨[], rfl⟩)

/-- Everything in the subtree of a node lies inside its text. -/
theorem AllInOrder.within {node found : Node} (ordered : node.AllInOrder)
    (below : found ∈ node.preorder) : node.Within found := by
  obtain ⟨path, leads⟩ := mem_preorder.mp below
  refine relates_of_at? Within within_refl (fun _ _ _ => within_trans) ?_ leads
  intro parent listed
  exact (ordered parent listed).inside

/-- What stands in later siblings starts no earlier than a node ends. -/
theorem stop_le_start_of_follows {node later : Node} {rest : List Node}
    (follows : (node :: rest).IsChain fun child next => child.stop ≤ next.start)
    (ordered : ∀ sibling ∈ rest, sibling.AllInOrder) (listed : later ∈ preorderAll rest) :
    node.stop ≤ later.start := by
  induction rest generalizing node with
  | nil =>
    rw [preorderAll_nil] at listed
    cases listed
  | cons next rest ih =>
    rw [List.isChain_cons_cons] at follows
    obtain ⟨near, further⟩ := follows
    have nextOrdered := ordered next List.mem_cons_self
    rw [preorderAll_cons, List.mem_append] at listed
    rcases listed with inNext | behind
    · exact Position.le_trans near (nextOrdered.within inNext).1
    · have far := ih further (fun sibling member => ordered sibling (.tail next member)) behind
      exact Position.le_trans near (Position.le_trans nextOrdered.inOrder.forward far)

mutual

/-- The subtree of a node in order is met in the order of starts. -/
theorem pairwise_start_preorder : ∀ node : Node, node.AllInOrder →
    node.preorder.Pairwise fun earlier later => earlier.start ≤ later.start
  | ⟨kind, start, stop, missing, children⟩, ordered => by
    have own := ordered.inOrder
    rw [preorder, List.pairwise_cons]
    refine ⟨?_, pairwise_start_preorderAll children (fun _ => ordered.child) own.follows⟩
    intro later below
    refine (ordered.within ?_).1
    rw [preorder]
    exact .tail _ below

theorem pairwise_start_preorderAll : ∀ nodes : List Node, (∀ node ∈ nodes, node.AllInOrder) →
    nodes.IsChain (fun child next => child.stop ≤ next.start) →
    (preorderAll nodes).Pairwise fun earlier later => earlier.start ≤ later.start
  | [], _, _ => by
    rw [preorderAll]
    exact .nil
  | node :: rest, ordered, follows => by
    have nodeOrdered := ordered node List.mem_cons_self
    have restOrdered : ∀ sibling ∈ rest, sibling.AllInOrder := fun sibling member =>
      ordered sibling (.tail node member)
    rw [preorderAll, List.pairwise_append]
    refine ⟨pairwise_start_preorder node nodeOrdered,
      pairwise_start_preorderAll rest restOrdered follows.tail, ?_⟩
    intro earlier inFirst later inRest
    have forward := (nodeOrdered earlier inFirst).forward
    have stops := (nodeOrdered.within inFirst).2
    have starts := stop_le_start_of_follows follows restOrdered inRest
    exact Position.le_trans forward (Position.le_trans stops starts)

end

end Node

namespace Tree

/-- All nodes of the tree are in order. -/
def InOrder (tree : Tree) : Prop := ∀ node ∈ tree.preorder, node.InOrder

instance (tree : Tree) : Decidable tree.InOrder :=
  inferInstanceAs (Decidable (∀ node ∈ tree.preorder, node.InOrder))

/-- **In a tree in order, nodes that are met later start no earlier.** -/
theorem pairwise_start_preorder {tree : Tree} (ordered : tree.InOrder) :
    tree.preorder.Pairwise fun earlier later => earlier.start ≤ later.start := by
  cases tree with
  | none => exact .nil
  | some root =>
    rw [InOrder, preorder_some] at ordered
    rw [preorder_some]
    exact root.pairwise_start_preorder ordered

end Tree

/-! ## Sites in order -/

/-- The site starts on an earlier line than another, or on the same line at a column that
is not later. -/
def ErrorSite.StartsBy (site other : ErrorSite) : Prop :=
  site.startLine < other.startLine ∨
    site.startLine = other.startLine ∧ site.startColumn ≤ other.startColumn

namespace Node

theorem toNat_startLine_site (node : Node) :
    node.site.startLine.toNat = node.start.line.toNat + 1 :=
  LineSpan.toNat_first_ofPositions node.start node.stop

/-- Sites are in the order of the positions at which their nodes start. -/
theorem site_startsBy_iff {node other : Node} :
    node.site.StartsBy other.site ↔ node.start ≤ other.start := by
  rw [ErrorSite.StartsBy, Position.le_iff_toNat, UInt64.lt_iff_toNat_lt, ← UInt64.toNat_inj,
    UInt32.le_iff_toNat_le, toNat_startLine_site, toNat_startLine_site, Nat.add_lt_add_iff_right,
    Nat.add_right_cancel_iff]
  rfl

/-- The site of a node that runs forward has at least one line. -/
theorem lines_site {node : Node} (forward : node.start ≤ node.stop) :
    1 ≤ node.site.startLine ∧ node.site.startLine ≤ node.site.endLine := by
  have last := LineSpan.toNat_last_ofPositions node.start node.stop
  change node.site.endLine.toNat = _ at last
  rw [Position.le_iff_toNat] at forward
  rw [UInt64.le_iff_toNat_le, UInt64.le_iff_toNat_le, last, toNat_startLine_site,
    UInt64.toNat_one]
  refine ⟨by omega, ?_⟩
  split_ifs <;> omega

end Node

namespace Checker

variable {checker : Checker} {tree : Tree}

theorem errors_eq_map_site :
    (checker.errors tree).value = (tree.preorder.filter checker.marks).map Node.site := by
  simp only [errors, Walker.drain_eq]
  rfl

/-- The sites of a tree in order are in order, and each of them has at least one line. -/
theorem errors_of_inOrder (ordered : tree.InOrder) :
    (checker.errors tree).value.Pairwise ErrorSite.StartsBy ∧
      ∀ site ∈ (checker.errors tree).value,
        1 ≤ site.startLine ∧ site.startLine ≤ site.endLine := by
  rw [errors_eq_map_site]
  constructor
  · rw [List.pairwise_map]
    refine ((Tree.pairwise_start_preorder ordered).filter _).imp ?_
    intro earlier later starts
    exact Node.site_startsBy_iff.mpr starts
  · intro site listed
    obtain ⟨node, marked, rfl⟩ := List.mem_map.mp listed
    exact Node.lines_site (ordered node (List.mem_filter.mp marked).1).forward

/-- Where there is a mark, the list of errors begins with one that starts first. -/
theorem exists_first_of_inOrder (ordered : tree.InOrder) {mark : Node}
    (listed : mark ∈ tree.preorder) (marks : checker.marks mark = true) :
    ∃ first ∈ tree.preorder, checker.marks first = true ∧
      (∀ other ∈ tree.preorder, checker.marks other = true → first.start ≤ other.start) ∧
      ∃ rest, (checker.errors tree).value = first.site :: rest := by
  have sorted := (Tree.pairwise_start_preorder ordered).filter checker.marks
  have member := List.mem_filter.mpr ⟨listed, marks⟩
  cases all : tree.preorder.filter checker.marks with
  | nil =>
    rw [all] at member
    cases member
  | cons first rest =>
    obtain ⟨firstListed, firstMarks⟩ := List.mem_filter.mp (all ▸ List.mem_cons_self)
    refine ⟨first, firstListed, firstMarks, ?_, rest.map Node.site, ?_⟩
    · intro other otherListed otherMarks
      have otherMember := List.mem_filter.mpr ⟨otherListed, otherMarks⟩
      rw [all] at otherMember sorted
      rcases List.mem_cons.mp otherMember with itself | later
      · rw [itself]
        exact Position.le_iff_toNat.mpr (by omega)
      · exact (List.pairwise_cons.mp sorted).1 other later
    · rw [errors_eq_map_site, all, List.map_cons]

end Checker

namespace Analyzer

/-- **In a tree in order, errors are listed in the order of the text, and a dry run names
the one that starts first.** The list of every checker is sorted by the lines and columns
at which the sites start, and every site has a first line of at least one and a last line
that is not before it. So has the list of syntax errors of a text that is parsed into such
a tree; and if the tree has a mark, the complaint of a dry run names the line and column
of a mark before which no mark starts. -/
theorem syntaxErrors_in_reading_order :
    (∀ (checker : Checker) (tree : Tree), tree.InOrder →
      (checker.errors tree).value.Pairwise ErrorSite.StartsBy ∧
      ∀ site ∈ (checker.errors tree).value,
        1 ≤ site.startLine ∧ site.startLine ≤ site.endLine) ∧
    ∀ (analyzer : Analyzer) (source : String) (tree : Tree),
      analyzer.grammar.parse source = .ok tree → tree.InOrder →
      (∃ sites, (analyzer.syntaxErrors source).value = .ok sites ∧
        sites.Pairwise ErrorSite.StartsBy ∧
        ∀ site ∈ sites, 1 ≤ site.startLine ∧ site.startLine ≤ site.endLine) ∧
      ∀ mark ∈ tree.preorder, analyzer.checker.marks mark = true →
        ∃ first ∈ tree.preorder, analyzer.checker.marks first = true ∧
          (∀ other ∈ tree.preorder, analyzer.checker.marks other = true →
            first.start ≤ other.start) ∧
          (first.start.column < 4294967295 →
            (analyzer.dryRun source).value = ⟨false,
              "Syntax error detected in " ++ analyzer.grammar.language ++ " code at line " ++
                toString (first.start.line.toNat + 1) ++ ", column " ++
                toString (first.start.column.toNat + 1)⟩) := by
  refine ⟨fun checker tree => Checker.errors_of_inOrder, ?_⟩
  intro analyzer source tree parsed ordered
  have errors : (analyzer.syntaxErrors source).value =
      .ok (analyzer.checker.errors tree).value := by
    simp only [syntaxErrors, inspect, parsed]
  refine ⟨⟨_, errors, Checker.errors_of_inOrder ordered⟩, ?_⟩
  intro mark listed marks
  obtain ⟨first, firstListed, firstMarks, earliest, rest, headed⟩ :=
    Checker.exists_first_of_inOrder ordered listed marks
  refine ⟨first, firstListed, firstMarks, earliest, fun room => ?_⟩
  have line : toString first.site.startLine = toString (first.start.line.toNat + 1) :=
    congrArg toString first.toNat_startLine_site
  rw [dryRun_value, errors, headed, ← line]
  exact congrArg (Verdict.mk false) (analyzer.checker.complaint_eq first.site room)

/-- In a block whose closing brace is missing and that is followed by an error, the brace
was made up where the error starts. Both mark an error, and a dry run names the place where
they start, with lines and columns counted from one. -/
theorem syntaxErrors_in_reading_order_of_unclosed_block :
    let brace : Node := ⟨"\x7d", ⟨2, 0⟩, ⟨2, 0⟩, true, []⟩
    let block : Node := ⟨"block", ⟨0, 8⟩, ⟨2, 0⟩, false, [brace]⟩
    let junk : Node := ⟨"ERROR", ⟨2, 0⟩, ⟨2, 4⟩, false, []⟩
    let tree : Tree := some ⟨"program", ⟨0, 0⟩, ⟨3, 0⟩, false, [block, junk]⟩
    let analyzer : Analyzer :=
      .ofGrammar { language := "go", kinds := .standard, parse := fun _ => .ok tree }
    tree.InOrder ∧
      (∃ sites, (analyzer.syntaxErrors "").value = .ok sites ∧
        sites.Pairwise ErrorSite.StartsBy ∧
        ∀ site ∈ sites, 1 ≤ site.startLine ∧ site.startLine ≤ site.endLine) ∧
      analyzer.checker.marks brace = true ∧ analyzer.checker.marks junk = true ∧
      (analyzer.dryRun "").value =
        ⟨false, "Syntax error detected in go code at line 3, column 1"⟩ := by
  intro brace block junk tree analyzer
  have ordered : tree.InOrder := by decide +kernel
  have braceListed : brace ∈ tree.preorder := Tree.mem_preorder.mpr ⟨[0, 0], rfl⟩
  have starts : ∀ node ∈ tree.preorder, analyzer.checker.marks node = true →
      node.start = ⟨2, 0⟩ := by decide +kernel
  obtain ⟨sites, complaint⟩ := syntaxErrors_in_reading_order.2 analyzer "" tree rfl ordered
  obtain ⟨first, listed, marks, -, named⟩ := complaint brace braceListed rfl
  rw [starts first listed marks] at named
  refine ⟨ordered, sites, rfl, by decide +kernel, (named (by decide)).trans ?_⟩
  decide +kernel

end Analyzer

end Enclosure
