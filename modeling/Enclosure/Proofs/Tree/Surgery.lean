import Enclosure.Proofs.Tree.Paths
import Enclosure.Proofs.Walker.Asking

/-!
# Changing a tree in one place

A tree is changed at the end of a path: the node that stands there becomes another
one, and the nodes above it keep everything but their children (`Node.modifyAt`).
Three changes are of interest. A node is dissolved when its children take its place
among its siblings (`Tree.dissolve`); the root has no siblings and is never dissolved.
The other way round, a node can be put around some neighbouring children of another,
or between two of them (`Tree.wrap`). And the flag of a node can be set
(`Tree.withMissing`).

A change in one place of the tree is a change in one stretch of its pre-order
(`Node.exists_preorder_modifyAt`). The nodes above the place do change, but only in
what is below them, so the statement is about nodes by themselves (`Node.bare`).
Dissolving a node takes that node out of a walk and nothing else
(`Tree.exists_drain_dissolve`), however deep the node lies. A node that was put into
a tree can be dissolved again, which gives the tree back (`Tree.dissolve_wrap`).
-/

set_option autoImplicit false

namespace Enclosure

namespace Node

/-- The node by itself, without what is below it. -/
def bare (node : Node) : Node := { node with children := [] }

/-- The node with the node at the end of a path changed. -/
def modifyAt (change : Node → Node) : (path : List Nat) → Node → Node
  | [], node => change node
  | index :: path, node =>
    { node with children := node.children.modify index (modifyAt change path) }

/-- The node with one of its children dissolved: the children of that child stand in
its place. -/
def dissolveChild (node : Node) (index : Nat) : Node :=
  { node with
    children := node.children.take index
      ++ (node.children[index]?.toList.flatMap children
        ++ node.children.drop (index + 1)) }

/-- The node with another node put around some of its neighbouring children: `count` of
them, beginning with the one at an index. -/
def wrapChildren (node : Node) (index count : Nat) (wrapper : Node) : Node :=
  { node with
    children := node.children.take index
      ++ { wrapper with children := (node.children.drop index).take count }
        :: node.children.drop (index + count) }

/-- The node with another flag. -/
def withMissing (node : Node) (missing : Bool) : Node := { node with missing := missing }

theorem preorder_map_bare (node : Node) :
    node.preorder.map bare = node.bare :: (preorderAll node.children).map bare := by
  rw [preorder_eq, List.map_cons]

/-- A tree in a list has its stretch of the pre-order, between those of the trees on
its left and on its right. -/
theorem preorderAll_of_getElem? {nodes : List Node} {index : Nat} {node : Node}
    (taken : nodes[index]? = some node) :
    preorderAll nodes =
      preorderAll (nodes.take index) ++
        (node.preorder ++ preorderAll (nodes.drop (index + 1))) := by
  obtain ⟨inside, rfl⟩ := List.getElem?_eq_some_iff.mp taken
  rw [← preorderAll_cons, ← preorderAll_append, ← List.drop_eq_getElem_cons inside,
    List.take_append_drop]

/-- **A change in one place of a tree is a change in one stretch of its pre-order.** -/
theorem exists_preorder_modifyAt {node found : Node} {path : List Nat}
    (stands : node.at? path = some found) :
    ∃ before after : List Node,
      node.preorder.map bare = before ++ (found.preorder.map bare ++ after) ∧
      ∀ change, (node.modifyAt change path).preorder.map bare =
        before ++ ((change found).preorder.map bare ++ after) := by
  induction path generalizing node with
  | nil =>
    cases stands
    exact ⟨[], [], by simp, by simp [modifyAt]⟩
  | cons index path ih =>
    obtain ⟨child, taken, further⟩ := at?_cons_eq_some.mp stands
    obtain ⟨before, after, unchanged, changed⟩ := ih further
    -- The siblings of the child on the path stay, on its left and on its right.
    refine ⟨node.bare :: ((preorderAll (node.children.take index)).map bare ++ before),
      after ++ (preorderAll (node.children.drop (index + 1))).map bare, ?_, fun change => ?_⟩
    · rw [preorder_map_bare, preorderAll_of_getElem? taken]
      simp only [List.map_append, unchanged, List.cons_append, List.append_assoc]
    · obtain ⟨inside, rfl⟩ := List.getElem?_eq_some_iff.mp taken
      rw [modifyAt, preorder_map_bare, List.modify_eq_take_cons_drop inside]
      simp only [preorderAll_append, preorderAll_cons, List.map_append, changed, bare,
        List.cons_append, List.append_assoc]

theorem at?_modifyAt {node found : Node} {path : List Nat} (stands : node.at? path = some found)
    (change : Node → Node) : (node.modifyAt change path).at? path = some (change found) := by
  induction path generalizing node with
  | nil =>
    cases stands
    rfl
  | cons index path ih =>
    obtain ⟨child, taken, further⟩ := at?_cons_eq_some.mp stands
    refine at?_cons_eq_some.mpr ⟨child.modifyAt change path, ?_, ih further⟩
    simp [modifyAt, taken]

/-- A change in one place can be undone in the same place. -/
theorem modifyAt_modifyAt_of_undo (change undo : Node → Node) {node found : Node}
    {path : List Nat} (stands : node.at? path = some found)
    (undone : undo (change found) = found) :
    (node.modifyAt change path).modifyAt undo path = node := by
  induction path generalizing node with
  | nil =>
    cases stands
    exact undone
  | cons index path ih =>
    obtain ⟨child, taken, further⟩ := at?_cons_eq_some.mp stands
    obtain ⟨inside, rfl⟩ := List.getElem?_eq_some_iff.mp taken
    have restored : (node.children.modify index (modifyAt change path)).modify index
        (modifyAt undo path) = node.children := by
      refine List.ext_getElem? fun place => ?_
      by_cases here : index = place
      · subst here
        simp [inside, ih further]
      · simp [here]
    rw [modifyAt, modifyAt, restored]
    cases node
    rfl

theorem children_wrapChildren_getElem? {node : Node} {index : Nat}
    (inside : index ≤ node.children.length) (count : Nat) (wrapper : Node) :
    (node.wrapChildren index count wrapper).children[index]? =
      some { wrapper with children := (node.children.drop index).take count } := by
  rw [wrapChildren, List.getElem?_append_right (List.length_take_le _ _),
    List.length_take_of_le inside, Nat.sub_self]
  rfl

/-- A node that was put around children can be dissolved again. -/
theorem dissolveChild_wrapChildren {node : Node} {index : Nat}
    (inside : index ≤ node.children.length) (count : Nat) (wrapper : Node) :
    (node.wrapChildren index count wrapper).dissolveChild index = node := by
  have length := List.length_take_of_le inside
  have left : (node.wrapChildren index count wrapper).children.take index =
      node.children.take index := by
    rw [wrapChildren, List.take_left' length]
  have right : (node.wrapChildren index count wrapper).children.drop (index + 1) =
      node.children.drop (index + count) := by
    rw [wrapChildren, ← List.drop_drop, List.drop_left' length]
    rfl
  rw [dissolveChild, children_wrapChildren_getElem? inside, left, right]
  simp only [wrapChildren, Option.toList_some, List.flatMap_singleton, ← List.drop_drop,
    List.take_append_drop]
  cases node
  rfl

/-- A dissolved child is the only node that leaves the pre-order. -/
theorem exists_preorder_dissolveChild {node child : Node} {index : Nat}
    (taken : node.children[index]? = some child) :
    ∃ before after : List Node,
      node.preorder.map bare = before ++ child.bare :: after ∧
      (node.dissolveChild index).preorder.map bare = before ++ after := by
  refine ⟨node.bare :: (preorderAll (node.children.take index)).map bare,
    (preorderAll child.children ++ preorderAll (node.children.drop (index + 1))).map bare, ?_, ?_⟩
  · rw [preorder_map_bare, preorderAll_of_getElem? taken, preorder_eq child]
    simp only [List.map_append, List.map_cons, List.cons_append]
  · rw [preorder_map_bare, dissolveChild, taken]
    simp only [Option.toList_some, List.flatMap_cons, List.flatMap_nil, List.append_nil,
      preorderAll_append, List.map_append, bare, List.cons_append]

end Node

namespace Tree

/-- The tree with the node at the end of a path changed. -/
def modifyAt (tree : Tree) (change : Node → Node) (path : List Nat) : Tree :=
  tree.map (Node.modifyAt change path)

/-- The tree with a child of the node at a path dissolved. -/
def dissolve (tree : Tree) (path : List Nat) (index : Nat) : Tree :=
  tree.modifyAt (·.dissolveChild index) path

/-- The tree with another flag on the node at a path. -/
def withMissing (tree : Tree) (path : List Nat) (missing : Bool) : Tree :=
  tree.modifyAt (·.withMissing missing) path

/-- The tree with a node put around some neighbouring children of the node at a path, or
between two of them when `count` is zero. -/
def wrap (tree : Tree) (path : List Nat) (index count : Nat) (wrapper : Node) : Tree :=
  tree.modifyAt (·.wrapChildren index count wrapper) path

/-- The outer tree arises from the inner one by putting nodes of a kind into it, one
after another. -/
inductive Interspersed (kind : String) (inner : Tree) : (outer : Tree) → Prop where
  | nowhere : Interspersed kind inner inner
  | further {outer : Tree} (before : Interspersed kind inner outer) (path : List Nat)
      {parent : Node} (stands : outer.at? path = some parent) {index : Nat}
      (inside : index ≤ parent.children.length) (count : Nat) (wrapper : Node)
      (ofKind : wrapper.kind = kind) :
      Interspersed kind inner (outer.wrap path index count wrapper)

variable {tree : Tree} {path : List Nat} {node : Node}

theorem exists_preorder_modifyAt (stands : tree.at? path = some node) :
    ∃ before after : List Node,
      tree.preorder.map Node.bare = before ++ (node.preorder.map Node.bare ++ after) ∧
      ∀ change, (tree.modifyAt change path).preorder.map Node.bare =
        before ++ ((change node).preorder.map Node.bare ++ after) := by
  cases tree with
  | none => cases stands
  | some root =>
    obtain ⟨before, after, unchanged, changed⟩ := Node.exists_preorder_modifyAt stands
    refine ⟨before, after, by rw [preorder_some, unchanged], fun change => ?_⟩
    rw [modifyAt, Option.map_some, preorder_some, changed]

/-- **A walk over a tree with a node dissolved is the walk over the tree with that node
left out**, at every depth. -/
theorem exists_drain_dissolve {index : Nat} (stands : tree.at? (path ++ [index]) = some node) :
    ∃ before after : List Node,
      (Walker.ofTree tree).drain.map Node.bare = before ++ node.bare :: after ∧
      (Walker.ofTree (tree.dissolve path index)).drain.map Node.bare = before ++ after := by
  rw [at?_append, Option.bind_eq_some_iff] at stands
  obtain ⟨parent, parentStands, below⟩ := stands
  obtain ⟨child, taken, same⟩ := Node.at?_cons_eq_some.mp below
  cases same
  obtain ⟨before, after, unchanged, changed⟩ := exists_preorder_modifyAt parentStands
  obtain ⟨left, right, split, dissolved⟩ := Node.exists_preorder_dissolveChild taken
  refine ⟨before ++ left, right ++ after, ?_, ?_⟩
  · rw [Walker.drain_ofTree, unchanged, split]
    simp only [List.append_assoc, List.cons_append]
  · rw [Walker.drain_ofTree, dissolve, changed, dissolved]
    simp only [List.append_assoc]

/-- **A node that was put into a tree can be dissolved again**, and nothing else has
changed. -/
theorem dissolve_wrap (stands : tree.at? path = some node) {index : Nat}
    (inside : index ≤ node.children.length) (count : Nat) (wrapper : Node) :
    (tree.wrap path index count wrapper).at? (path ++ [index]) =
        some { wrapper with children := (node.children.drop index).take count } ∧
      (tree.wrap path index count wrapper).dissolve path index = tree := by
  cases tree with
  | none => cases stands
  | some root =>
    have stands : root.at? path = some node := stands
    constructor
    · have wrapped := Node.at?_modifyAt stands (·.wrapChildren index count wrapper)
      have leads : (root.modifyAt (·.wrapChildren index count wrapper) path).at?
          (path ++ [index]) =
          some { wrapper with children := (node.children.drop index).take count } := by
        rw [Node.at?_append, wrapped, Option.bind_some]
        exact Node.at?_cons_eq_some.mpr
          ⟨_, Node.children_wrapChildren_getElem? inside count wrapper, rfl⟩
      exact leads
    · have undone := Node.modifyAt_modifyAt_of_undo (·.wrapChildren index count wrapper)
        (·.dissolveChild index) stands (Node.dissolveChild_wrapChildren inside count wrapper)
      exact congrArg some undone

/-- Whoever passes over a node, and sees of every node no more than the node by itself,
does not notice when the node is dissolved. -/
theorem filter_map_preorder_dissolve {index : Nat} {view : Node → Node} {relevant : Node → Bool}
    (byItself : ∀ node, view node.bare = view node)
    (stands : tree.at? (path ++ [index]) = some node) (passedOver : relevant (view node) = false) :
    ((tree.dissolve path index).preorder.map view).filter relevant =
      (tree.preorder.map view).filter relevant := by
  obtain ⟨before, after, whole, dissolved⟩ := exists_drain_dissolve stands
  rw [Walker.drain_ofTree] at whole dissolved
  have seenBare : ∀ nodes : List Node, nodes.map view = (nodes.map Node.bare).map view := by
    intro nodes
    rw [List.map_map]
    exact List.map_congr_left fun node _ => (byItself node).symm
  rw [seenBare, seenBare tree.preorder, whole, dissolved]
  simp only [List.map_append, List.map_cons, List.filter_append, byItself]
  rw [List.filter_cons_of_neg (Bool.eq_false_iff.mp passedOver)]

end Tree

end Enclosure
