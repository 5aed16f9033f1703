import Enclosure.Proofs.Checker.Agreement
import Enclosure.Proofs.Selection.Extremes
import Enclosure.Proofs.Tree.Surgery

/-!
# Nodes that make no difference

A search for a structural unit looks at the kind of every node, and at the positions
of those whose kind is structural. So all it sees of a tree is the sequence of its
structural nodes in pre-order, without their flags and without what is below them
(`Selection.seen`): trees that look the same have the same answer, and the search
makes the same log records on the way (`Selection.resolvesAlike_of_seen`). In the
same way a check for errors sees the sequence of the marks and nothing else
(`Checker.judgesAlike_of_seen`), and no selection takes part in it.

When a node is dissolved, its children take its place and the walk over the tree
loses this one node. A search does not notice unless the node is structural, and a
check does not notice unless the node is a mark. In particular the nodes that a
parser puts around or between units where the text is broken do not change which
unit is found.
-/

set_option autoImplicit false

namespace Enclosure

/-- What a selection can see of a node: its kind and its positions. -/
def Node.outline (node : Node) : Node := { node with missing := false, children := [] }

/-! ## What a selection sees -/

namespace Selection

variable (selection : Selection) (range : LineRange)

/-- A search through either tree gives the same answer and makes the same log
records. -/
def ResolvesAlike (first second : Tree) : Prop :=
  (selection.resolve first range).value = (selection.resolve second range).value ∧
    (selection.resolve first range).log = (selection.resolve second range).log

/-- The kind of the node is structural. -/
def isStructural (node : Node) : Bool := selection.kinds.contains node.kind

/-- What a selection sees of a tree: its structural nodes in pre-order. -/
def seen (tree : Tree) : List Node :=
  (tree.preorder.map Node.outline).filter selection.isStructural

/-- A search so far, with what it has seen of the node selected last. -/
def Progress.outline (progress : Progress) : Progress :=
  { progress with best := progress.best.map Node.outline }

/-- One step of a search looks at no more than the outlines. -/
theorem meet_outline (progress : Progress) (node : Node) :
    selection.meet range progress.outline node.outline =
      (selection.meet range progress node).outline := by
  have replaces : selection.replaces node.outline progress.outline.best =
      selection.replaces node progress.best := by
    unfold Progress.outline
    cases progress.best <;> rfl
  have candidate : selection.isCandidate range node.outline = selection.isCandidate range node :=
    rfl
  unfold meet
  rw [replaces, candidate]
  split <;> rfl

/-- One step of a search passes over a node that is not structural. -/
theorem meet_of_not_structural (progress : Progress) {node : Node}
    (irrelevant : selection.isStructural node = false) :
    selection.meet range progress node = progress := by
  unfold isStructural at irrelevant
  unfold meet isCandidate
  rw [irrelevant, Bool.false_and, Bool.false_and]
  rfl

theorem meetAll_map_outline (nodes : List Node) :
    selection.meetAll range (nodes.map Node.outline) =
      (selection.meetAll range nodes).outline := by
  rw [meetAll, List.foldl_map]
  have start : ({} : Progress) = Progress.outline {} := rfl
  rw [start]
  exact List.foldl_hom Progress.outline (selection.meet_outline range)

theorem meetAll_filter_structural (nodes : List Node) :
    selection.meetAll range (nodes.filter selection.isStructural) =
      selection.meetAll range nodes := by
  rw [meetAll, meetAll, List.foldl_filter]
  congr 1
  funext progress node
  split
  · rfl
  · rename_i irrelevant
    exact (selection.meet_of_not_structural range progress (Bool.eq_false_iff.mpr irrelevant)).symm

/-- A search through what is seen of a tree is a search through the tree. -/
theorem meetAll_seen (tree : Tree) :
    selection.meetAll range (selection.seen tree) =
      (selection.meetAll range tree.preorder).outline := by
  rw [seen, meetAll_filter_structural, meetAll_map_outline]

variable {selection range}

/-- **Trees that look the same to a selection are searched with the same result.** -/
theorem resolvesAlike_of_seen {first second : Tree}
    (same : selection.seen first = selection.seen second) :
    selection.ResolvesAlike range first second := by
  have outlines := congrArg (selection.meetAll range) same
  rw [meetAll_seen, meetAll_seen] at outlines
  have best := congrArg (fun progress => progress.best.map Node.unit) outlines
  have log := congrArg Progress.log outlines
  simp only [Progress.outline, Option.map_map] at best log
  simp only [ResolvesAlike, resolve, Walker.drain_ofTree]
  exact ⟨best, log⟩

variable {tree : Tree} {path : List Nat} {node : Node}

/-- A node that is not structural can be dissolved. -/
theorem resolvesAlike_dissolve {index : Nat} (stands : tree.at? (path ++ [index]) = some node)
    (irrelevant : selection.kinds.contains node.kind = false) :
    selection.ResolvesAlike range (tree.dissolve path index) tree :=
  resolvesAlike_of_seen (Tree.filter_map_preorder_dissolve (fun _ => rfl) stands irrelevant)

/-- Every flag can be changed. -/
theorem resolvesAlike_withMissing (stands : tree.at? path = some node) (missing : Bool) :
    selection.ResolvesAlike range (tree.withMissing path missing) tree := by
  obtain ⟨before, after, whole, changed⟩ := Tree.exists_preorder_modifyAt stands
  have flagged := changed (·.withMissing missing)
  have outlines : ∀ nodes : List Node,
      nodes.map Node.outline = (nodes.map Node.bare).map Node.outline := by
    intro nodes
    rw [List.map_map]
    rfl
  refine resolvesAlike_of_seen ?_
  rw [seen, seen, Tree.withMissing, outlines, outlines tree.preorder, flagged, whole,
    Node.preorder_map_bare, Node.preorder_map_bare]
  simp only [List.map_append, List.map_cons]
  rfl

/-- A node that is not structural can be put around or between others. -/
theorem resolvesAlike_wrap (stands : tree.at? path = some node) {index : Nat}
    (inside : index ≤ node.children.length) (count : Nat) {wrapper : Node}
    (irrelevant : selection.kinds.contains wrapper.kind = false) :
    selection.ResolvesAlike range (tree.wrap path index count wrapper) tree := by
  obtain ⟨wrapperStands, dissolved⟩ := Tree.dissolve_wrap stands inside count wrapper
  have alike : selection.ResolvesAlike range
      ((tree.wrap path index count wrapper).dissolve path index)
      (tree.wrap path index count wrapper) := resolvesAlike_dissolve wrapperStands irrelevant
  rw [dissolved] at alike
  exact ⟨alike.1.symm, alike.2.symm⟩

/-- Any number of nodes of a kind that is not structural can be put around and between
others. -/
theorem resolvesAlike_of_interspersed {kind : String} {outer : Tree}
    (irrelevant : selection.kinds.contains kind = false)
    (interspersed : tree.Interspersed kind outer) : selection.ResolvesAlike range outer tree := by
  induction interspersed with
  | nowhere => exact ⟨rfl, rfl⟩
  | further _ path stands inside count wrapper ofKind ih =>
    obtain ⟨value, log⟩ := resolvesAlike_wrap stands inside count (ofKind ▸ irrelevant)
    exact ⟨value.trans ih.1, log.trans ih.2⟩

end Selection

/-! ## What a checker sees -/

namespace Checker

variable {checker : Checker}

/-- A checker says the same about either tree. -/
def JudgesAlike (checker : Checker) (first second : Tree) : Prop :=
  (checker.firstError first).value = (checker.firstError second).value ∧
    (checker.errors first).value = (checker.errors second).value ∧
    (checker.check first).value = (checker.check second).value

/-- What a checker sees of a tree: its marks in pre-order. -/
def seen (checker : Checker) (tree : Tree) : List Node :=
  (tree.preorder.map Node.bare).filter checker.marks

theorem errors_value_eq_map_seen (tree : Tree) :
    (checker.errors tree).value = (checker.seen tree).map Node.site := by
  rw [errors, Walker.drain_ofTree, seen, List.filter_map, List.map_map]
  rfl

/-- **A checker says the same about trees that look the same to it.** -/
theorem judgesAlike_of_seen {first second : Tree}
    (same : checker.seen first = checker.seen second) : checker.JudgesAlike first second := by
  have errors : (checker.errors first).value = (checker.errors second).value := by
    rw [errors_value_eq_map_seen, errors_value_eq_map_seen, same]
  refine ⟨?_, errors, ?_⟩
  · rw [firstError_value, firstError_value, errors]
  · rw [check_value, check_value, errors]

/-- A node that is no mark can be dissolved. -/
theorem judgesAlike_dissolve {tree : Tree} {path : List Nat} {index : Nat} {node : Node}
    (stands : tree.at? (path ++ [index]) = some node) (present : node.missing = false)
    (sound : node.kind ≠ checker.errorKind) :
    checker.JudgesAlike (tree.dissolve path index) tree := by
  have unmarked : checker.marks node.bare = false := by
    rw [marks, Bool.or_eq_false_iff]
    exact ⟨present, beq_eq_false_iff_ne.mpr sound⟩
  exact judgesAlike_of_seen (Tree.filter_map_preorder_dissolve (fun _ => rfl) stands unmarked)

end Checker

/-- **Nodes that are not asked for do not interfere.**

* A node below the root whose kind is not structural can be dissolved, so that its
  children stand in its place, and every flag can be changed: a search for any range
  under any policy gives the same answer and makes the same log records.
* A node below the root that is neither missing nor of the error kind can be dissolved:
  the first error, all errors and the verdict of a checker stay the same.
* What is selected has no part in the verdict and the errors of an analyzer.
* Any number of nodes of a kind, such as the error kind, may stand around and between
  the nodes of a tree without changing the unit that is found and the log records,
  provided that the kind is not structural. -/
theorem Analyzer.unaffected_by_irrelevant_nodes :
    (∀ (kinds : KindSet) (policy : Policy) (range : LineRange) (tree : Tree) (path : List Nat),
      (∀ index node, tree.at? (path ++ [index]) = some node → kinds.contains node.kind = false →
        (Selection.mk kinds policy).ResolvesAlike range (tree.dissolve path index) tree) ∧
      ∀ node missing, tree.at? path = some node →
        (Selection.mk kinds policy).ResolvesAlike range (tree.withMissing path missing) tree) ∧
    (∀ (checker : Checker) (tree : Tree) (path : List Nat) (index : Nat) (node : Node),
      tree.at? (path ++ [index]) = some node → node.missing = false →
      node.kind ≠ checker.errorKind →
      checker.JudgesAlike (tree.dissolve path index) tree) ∧
    (∀ (grammar : Grammar) (selection other : Selection),
      (Analyzer.mk grammar selection).checker = (Analyzer.mk grammar other).checker ∧
      ∀ source,
        (Analyzer.mk grammar selection).dryRun source = (Analyzer.mk grammar other).dryRun source ∧
        (Analyzer.mk grammar selection).syntaxErrors source =
          (Analyzer.mk grammar other).syntaxErrors source) ∧
    ∀ (kinds : KindSet) (policy : Policy) (range : LineRange) (errorKind : String)
      (tree outer : Tree), kinds.contains errorKind = false → tree.Interspersed errorKind outer →
      (Selection.mk kinds policy).ResolvesAlike range outer tree := by
  refine ⟨?_, ?_, ?_, ?_⟩
  · intro kinds policy range tree path
    refine ⟨?_, ?_⟩
    · intro index node stands irrelevant
      exact Selection.resolvesAlike_dissolve stands irrelevant
    · intro node missing stands
      exact Selection.resolvesAlike_withMissing stands missing
  · intro checker tree path index node stands present sound
    exact Checker.judgesAlike_dissolve stands present sound
  · intro grammar selection other
    exact ⟨rfl, fun source => ⟨rfl, rfl⟩⟩
  · intro kinds policy range errorKind tree outer irrelevant interspersed
    exact Selection.resolvesAlike_of_interspersed irrelevant interspersed

/-- A function in a broken text: the parser puts an error node around it. The function is
found as if the error node were not there, and also when the error node counts as
missing; and the errors are the same when the function is dissolved. -/
theorem Analyzer.unaffected_by_irrelevant_nodes_of_broken_text :
    let function : Node := ⟨"function_definition", ⟨0, 0⟩, ⟨1, 12⟩, false, []⟩
    let error : Node := ⟨"ERROR", ⟨0, 0⟩, ⟨3, 11⟩, false, []⟩
    let tree : Tree := some ⟨"module", ⟨0, 0⟩, ⟨4, 0⟩, false, [function]⟩
    let broken : Tree := tree.wrap [] 0 1 error
    let line : LineRange := ⟨2, 2, by decide, by decide⟩
    Selection.standard.ResolvesAlike line (broken.dissolve [] 0) broken ∧
      Selection.standard.ResolvesAlike line (broken.withMissing [0] true) broken ∧
      Checker.standard.JudgesAlike (broken.dissolve [0] 0) broken ∧
      Selection.standard.ResolvesAlike line broken tree := by
  intro function error tree broken line
  have irrelevant : KindSet.standard.contains "ERROR" = false := by decide +kernel
  obtain ⟨searches, checks, -, interspersed⟩ := unaffected_by_irrelevant_nodes
  refine ⟨?_, ?_, ?_, ?_⟩
  · exact (searches .standard .outermost line broken []).1 0 { error with children := [function] }
      rfl irrelevant
  · exact (searches .standard .outermost line broken [0]).2 { error with children := [function] }
      true rfl
  · exact checks .standard broken [0] 0 function rfl rfl (by decide)
  · exact interspersed .standard .outermost line "ERROR" tree broken irrelevant
      (.further .nowhere [] rfl (Nat.zero_le _) 1 error rfl)

end Enclosure
