import Enclosure.Node

/-!
# Where the nodes of a tree stand

Equal nodes can stand at several places of a tree, so a place is given by the path
that leads to it: which child to take at every step from the root. One place lies
above another when its path is an initial part of the other path.

`Tree.places` lists the places with their nodes in pre-order. The list is exactly
what paths lead to (`Tree.mem_places`), its nodes are the recursive pre-order
(`Tree.map_snd_places`), and a place comes before all places below it
(`Tree.pairwise_places`). These three facts carry statements about the pre-order,
in which ancestry cannot be seen, over to statements about ancestors and
descendants.

A relation that holds between parents and children and is reflexive and transitive
holds between a node and everything below it (`Tree.relates_of_prefix`).
-/

set_option autoImplicit false

namespace Enclosure

namespace Node

/-- The node at the end of a path. -/
def at? : Node → List Nat → Option Node
  | node, [] => some node
  | node, index :: path => node.children[index]?.bind fun child => child.at? path

mutual

/-- The paths from a node and where they lead, in pre-order. -/
def places : Node → List (List Nat × Node)
  | ⟨kind, start, stop, missing, children⟩ =>
    ([], ⟨kind, start, stop, missing, children⟩) :: placesFrom 0 children

/-- The paths into a list of trees, the first of which has the given index. -/
def placesFrom : Nat → List Node → List (List Nat × Node)
  | _, [] => []
  | index, node :: rest =>
    node.places.map (fun place => (index :: place.1, place.2)) ++ placesFrom (index + 1) rest

end

theorem at?_append (node : Node) (path further : List Nat) :
    node.at? (path ++ further) = (node.at? path).bind fun found => found.at? further := by
  induction path generalizing node with
  | nil => rfl
  | cons index path ih =>
    rw [List.cons_append, at?, at?, Option.bind_assoc]
    congr 1
    funext child
    exact ih child

mutual

theorem map_snd_places : ∀ node : Node, node.places.map (·.2) = node.preorder
  | ⟨kind, start, stop, missing, children⟩ => by
    rw [places, preorder, List.map_cons, map_snd_placesFrom 0 children]

theorem map_snd_placesFrom : ∀ (index : Nat) (nodes : List Node),
    (placesFrom index nodes).map (·.2) = preorderAll nodes
  | _, [] => by rw [placesFrom, preorderAll, List.map_nil]
  | index, node :: rest => by
    rw [placesFrom, preorderAll, List.map_append, List.map_map,
      map_snd_placesFrom (index + 1) rest, ← map_snd_places node]
    rfl

end

theorem at?_cons_eq_some {node found : Node} {index : Nat} {path : List Nat} :
    node.at? (index :: path) = some found ↔
      ∃ child, node.children[index]? = some child ∧ child.at? path = some found := by
  rw [at?, Option.bind_eq_some_iff]

mutual

theorem mem_places : ∀ (node : Node) (path : List Nat) (found : Node),
    (path, found) ∈ node.places ↔ node.at? path = some found
  | ⟨kind, start, stop, missing, children⟩, [], found => by
    rw [places, List.mem_cons, mem_placesFrom]
    simp [at?, eq_comm]
  | ⟨kind, start, stop, missing, children⟩, index :: path, found => by
    rw [places, List.mem_cons, mem_placesFrom, at?_cons_eq_some]
    constructor
    · rintro (root | ⟨taken, further, same, below⟩)
      · cases root
      · cases same
        rwa [Nat.zero_add]
    · intro below
      exact .inr ⟨index, path, by rw [Nat.zero_add], below⟩

theorem mem_placesFrom : ∀ (first : Nat) (nodes : List Node) (path : List Nat) (found : Node),
    (path, found) ∈ placesFrom first nodes ↔
      ∃ index further, path = (first + index) :: further ∧
        ∃ node, nodes[index]? = some node ∧ node.at? further = some found
  | _, [], path, found => by simp [placesFrom]
  | first, node :: rest, path, found => by
    rw [placesFrom, List.mem_append, List.mem_map, mem_placesFrom (first + 1) rest]
    constructor
    · rintro (⟨⟨further, child⟩, member, same⟩ | ⟨index, further, same, below⟩)
      · cases same
        exact ⟨0, further, rfl, node, rfl, (mem_places node further child).mp member⟩
      · refine ⟨index + 1, further, ?_, below⟩
        rw [same, Nat.add_right_comm, Nat.add_assoc]
    · rintro ⟨index, further, same, child, taken, below⟩
      cases index with
      | zero =>
        cases taken
        exact .inl ⟨(further, found), (mem_places node further found).mpr below, by rw [same]; rfl⟩
      | succ index =>
        refine .inr ⟨index, further, ?_, child, taken, below⟩
        rw [same, Nat.add_right_comm, Nat.add_assoc]

end

mutual

/-- No place lies above one that comes before it. -/
theorem pairwise_places : ∀ node : Node,
    node.places.Pairwise fun earlier later => ¬ later.1 <+: earlier.1
  | ⟨kind, start, stop, missing, children⟩ => by
    rw [places, List.pairwise_cons]
    refine ⟨?_, pairwise_placesFrom 0 children⟩
    rintro ⟨path, found⟩ member
    obtain ⟨index, further, rfl, -⟩ := (mem_placesFrom 0 children path found).mp member
    simp

theorem pairwise_placesFrom : ∀ (first : Nat) (nodes : List Node),
    (placesFrom first nodes).Pairwise fun earlier later => ¬ later.1 <+: earlier.1
  | _, [] => by
    rw [placesFrom]
    exact .nil
  | first, node :: rest => by
    rw [placesFrom, List.pairwise_append, List.pairwise_map]
    refine ⟨?_, pairwise_placesFrom (first + 1) rest, ?_⟩
    · refine (pairwise_places node).imp ?_
      intro earlier later apart above
      exact apart ((List.prefix_cons_inj first).mp above)
    · -- The paths into the first tree and into the others part at the first step.
      intro earlier earlierMember later laterMember above
      obtain ⟨place, -, rfl⟩ := List.mem_map.mp earlierMember
      obtain ⟨index, further, path, -⟩ :=
        (mem_placesFrom (first + 1) rest later.1 later.2).mp laterMember
      rw [path, List.cons_prefix_cons] at above
      omega

end

theorem mem_preorder {node found : Node} :
    found ∈ node.preorder ↔ ∃ path, node.at? path = some found := by
  rw [← map_snd_places, List.mem_map]
  constructor
  · rintro ⟨⟨path, _⟩, member, rfl⟩
    exact ⟨path, (mem_places node path _).mp member⟩
  · rintro ⟨path, leads⟩
    exact ⟨(path, found), (mem_places node path found).mpr leads, rfl⟩

/-- Everything below a child is below its parent. -/
theorem preorder_subset_of_mem_children {node child : Node} (member : child ∈ node.children) :
    child.preorder ⊆ node.preorder := by
  intro found below
  obtain ⟨path, leads⟩ := mem_preorder.mp below
  obtain ⟨index, taken⟩ := List.mem_iff_getElem?.mp member
  exact mem_preorder.mpr ⟨index :: path, at?_cons_eq_some.mpr ⟨child, taken, leads⟩⟩

/-- What holds between parents and children, and of nodes with themselves, and is
transitive, holds between a node and everything below it. -/
theorem relates_of_at? (relation : Node → Node → Prop) (refl : ∀ node, relation node node)
    (trans : ∀ outer middle inner, relation outer middle → relation middle inner →
      relation outer inner) {path : List Nat} {node found : Node}
    (edges : ∀ parent ∈ node.preorder, ∀ child ∈ parent.children, relation parent child)
    (leads : node.at? path = some found) : relation node found := by
  induction path generalizing node with
  | nil =>
    cases leads
    exact refl _
  | cons index path ih =>
    obtain ⟨child, taken, further⟩ := at?_cons_eq_some.mp leads
    have member := List.mem_of_getElem? taken
    have edge := edges node (mem_preorder.mpr ⟨[], rfl⟩) child member
    refine trans node child found edge (ih ?_ further)
    intro parent below
    exact edges parent (preorder_subset_of_mem_children member below)

end Node

namespace Tree

/-- The node at the end of a path. -/
def at? (tree : Tree) (path : List Nat) : Option Node := tree.bind fun root => root.at? path

/-- The places of a tree and the nodes that stand there, in pre-order. -/
def places : Tree → List (List Nat × Node)
  | none => []
  | some root => root.places

variable {tree : Tree}

theorem preorder_some (root : Node) : preorder (some root) = root.preorder := by
  rw [preorder, Option.toList_some, Node.preorderAll_cons, Node.preorderAll_nil, List.append_nil]

theorem map_snd_places (tree : Tree) : tree.places.map (·.2) = tree.preorder := by
  cases tree with
  | none => rfl
  | some root => rw [places, Node.map_snd_places, preorder_some]

theorem mem_places {path : List Nat} {node : Node} :
    (path, node) ∈ tree.places ↔ tree.at? path = some node := by
  cases tree with
  | none => simp [places, at?]
  | some root => exact Node.mem_places root path node

theorem pairwise_places (tree : Tree) :
    tree.places.Pairwise fun earlier later => ¬ later.1 <+: earlier.1 := by
  cases tree with
  | none => exact .nil
  | some root => exact root.pairwise_places

theorem mem_preorder {node : Node} : node ∈ tree.preorder ↔ ∃ path, tree.at? path = some node := by
  rw [← map_snd_places, List.mem_map]
  constructor
  · rintro ⟨⟨path, _⟩, member, rfl⟩
    exact ⟨path, mem_places.mp member⟩
  · rintro ⟨path, leads⟩
    exact ⟨(path, node), mem_places.mpr leads, rfl⟩

theorem at?_append (tree : Tree) (path further : List Nat) :
    tree.at? (path ++ further) = (tree.at? path).bind fun node => node.at? further := by
  cases tree with
  | none => rfl
  | some root => exact root.at?_append path further

/-- **What holds between parents and children holds between ancestors and
descendants**, for a relation that is reflexive and transitive. -/
theorem relates_of_prefix (relation : Node → Node → Prop) (refl : ∀ node, relation node node)
    (trans : ∀ outer middle inner, relation outer middle → relation middle inner →
      relation outer inner)
    (edges : ∀ parent ∈ tree.preorder, ∀ child ∈ parent.children, relation parent child)
    {above path : List Nat} {outer inner : Node} (isAbove : above <+: path)
    (outerStands : tree.at? above = some outer) (innerStands : tree.at? path = some inner) :
    relation outer inner := by
  obtain ⟨further, rfl⟩ := isAbove
  rw [at?_append, outerStands, Option.bind_some] at innerStands
  refine Node.relates_of_at? relation refl trans ?_ innerStands
  intro parent below
  obtain ⟨path, leads⟩ := Node.mem_preorder.mp below
  refine edges parent (mem_preorder.mpr ⟨above ++ path, ?_⟩)
  rw [at?_append, outerStands, Option.bind_some, leads]

end Tree

end Enclosure
