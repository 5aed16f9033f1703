import Enclosure.LineSpan

/-!
# Syntax trees

A node of a syntax tree has a kind, a start and an end position, a flag that
says whether the parser made it up to repair the text, and its children from
left to right. Nothing is assumed of the positions: children may stick out of
their parents, and a node may end before it starts.

`Node.preorder` lists a node and then, child by child, everything below it. It
is the order in which a reader meets the starts of the nodes, and the order in
which every traversal of the library answers.
-/

set_option autoImplicit false

namespace Enclosure

/-- A node of a syntax tree, with everything below it. -/
structure Node where
  kind : String
  start : Position
  stop : Position
  missing : Bool
  children : List Node
deriving Inhabited

namespace Node

/-- The lines that the node occupies. -/
def span (node : Node) : LineSpan := LineSpan.ofPositions node.start node.stop

mutual

/-- The node, then everything below it, child by child. -/
def preorder : Node → List Node
  | ⟨kind, start, stop, missing, children⟩ =>
    ⟨kind, start, stop, missing, children⟩ :: preorderAll children

/-- Everything in a list of trees, tree by tree. -/
def preorderAll : List Node → List Node
  | [] => []
  | node :: rest => node.preorder ++ preorderAll rest

end

mutual

/-- The number of nodes of a tree. -/
def size : Node → Nat
  | ⟨_, _, _, _, children⟩ => sizeAll children + 1

/-- The number of nodes of a list of trees. -/
def sizeAll : List Node → Nat
  | [] => 0
  | node :: rest => node.size + sizeAll rest

end

theorem preorder_eq (node : Node) : node.preorder = node :: preorderAll node.children := by
  cases node
  simp only [preorder]

theorem size_eq (node : Node) : node.size = sizeAll node.children + 1 := by
  cases node
  simp only [size]

@[simp] theorem preorderAll_nil : preorderAll [] = [] := by simp only [preorderAll]

@[simp] theorem preorderAll_cons (node : Node) (rest : List Node) :
    preorderAll (node :: rest) = node.preorder ++ preorderAll rest := by
  simp only [preorderAll]

@[simp] theorem sizeAll_nil : sizeAll [] = 0 := by simp only [sizeAll]

@[simp] theorem sizeAll_cons (node : Node) (rest : List Node) :
    sizeAll (node :: rest) = node.size + sizeAll rest := by
  simp only [sizeAll]

@[simp] theorem preorderAll_append (left right : List Node) :
    preorderAll (left ++ right) = preorderAll left ++ preorderAll right := by
  induction left with
  | nil => simp
  | cons node rest ih => simp [ih]

@[simp] theorem sizeAll_append (left right : List Node) :
    sizeAll (left ++ right) = sizeAll left + sizeAll right := by
  induction left with
  | nil => simp
  | cons node rest ih => simp [ih, Nat.add_assoc]

end Node

/-- A parsed source text: a root, or nothing at all. -/
abbrev Tree := Option Node

/-- Everything in a tree, in pre-order. -/
def Tree.preorder (tree : Tree) : List Node := Node.preorderAll tree.toList

end Enclosure
