import Enclosure.Node

/-!
# Walking a tree one node at a time

A walker keeps the trees that are still to be visited, in the order in which
they come. Taking a step hands out the first of them and puts its children in
its place. The children of a node are therefore asked for exactly when the node
is handed out, and a walk that stops early never asks for the rest.

What a walker still has to hand out is the pre-order of its pending trees
(`Walker.drain_eq`), which is how a walk by steps and the recursive definition
of pre-order agree.
-/

set_option autoImplicit false

namespace Enclosure

/-- A walk in progress: the trees still to be visited, next one first. -/
structure Walker where
  pending : List Node

namespace Walker

/-- A walk over a whole tree. -/
def ofTree (tree : Tree) : Walker := ⟨tree.toList⟩

/-- The next node, and the walk after it. -/
def next (walker : Walker) : Option (Node × Walker) :=
  match walker.pending with
  | [] => none
  | node :: rest => some (node, ⟨node.children ++ rest⟩)

/-- How many nodes the walk still has to hand out. -/
def size (walker : Walker) : Nat := Node.sizeAll walker.pending

/-- Take at most `limit` steps: the nodes met, and the walk after them. -/
def take : (limit : Nat) → Walker → List Node × Walker
  | 0, walker => ([], walker)
  | limit + 1, walker =>
    match walker.next with
    | none => ([], walker)
    | some (node, after) =>
      let (nodes, final) := take limit after
      (node :: nodes, final)

/-- All nodes that the walk still has to hand out. -/
def drain (walker : Walker) : List Node := (walker.take walker.size).1

/-- Step until a node satisfies the condition, at most `limit` times: the node
that does, and how many nodes were met. -/
def seek (wanted : Node → Bool) : (limit : Nat) → Walker → Option Node × Nat
  | 0, _ => (none, 0)
  | limit + 1, walker =>
    match walker.next with
    | none => (none, 0)
    | some (node, after) =>
      if wanted node then (some node, 1)
      else
        let (found, met) := seek wanted limit after
        (found, met + 1)

/-- The first remaining node that satisfies the condition, and how many nodes
were met on the way. -/
def search (wanted : Node → Bool) (walker : Walker) : Option Node × Nat :=
  walker.seek wanted walker.size

/-! ## A walk by steps is the recursive pre-order -/

theorem take_of_size_le (limit : Nat) (walker : Walker) (enough : walker.size ≤ limit) :
    walker.take limit = (Node.preorderAll walker.pending, ⟨[]⟩) := by
  induction limit generalizing walker with
  | zero =>
    obtain ⟨pending⟩ := walker
    cases pending with
    | nil => simp [take]
    | cons node rest =>
      have := node.size_eq
      simp only [size, Node.sizeAll_cons] at enough
      omega
  | succ limit ih =>
    obtain ⟨pending⟩ := walker
    cases pending with
    | nil => simp [take, next]
    | cons node rest =>
      have smaller : (⟨node.children ++ rest⟩ : Walker).size ≤ limit := by
        have := node.size_eq
        simp only [size, Node.sizeAll_cons, Node.sizeAll_append] at enough ⊢
        omega
      simp [take, next, ih _ smaller, Node.preorder_eq]

/-- **A walk by steps hands out the recursive pre-order.** -/
theorem drain_eq (walker : Walker) : walker.drain = Node.preorderAll walker.pending := by
  simp [drain, take_of_size_le walker.size walker (Nat.le_refl _)]

end Walker

/-! ## Several walks side by side -/

/-- What can be done with the topmost of several walks. -/
inductive Move where
  | next
  | rest
  | count
  | clone
  | pop
deriving DecidableEq

/-- What a move shows. -/
inductive Sight where
  /-- The node that was handed out, if one was left. -/
  | node (node : Option Node)
  /-- The kinds of the nodes that were handed out. -/
  | kinds (kinds : List String)
  /-- A number: of nodes handed out, or of walks in the stack. -/
  | number (number : Nat)

/-- A stack of walks, topmost first, and how often any of them has asked a node
for its children. -/
structure Bench where
  walkers : List Walker
  fetched : Nat

namespace Bench

/-- One fresh walk over a tree. -/
def ofTree (tree : Tree) : Bench := ⟨[Walker.ofTree tree], 0⟩

/-- Make one move. -/
def step (bench : Bench) (move : Move) : Sight × Bench :=
  match bench.walkers with
  | [] => (.node none, bench)
  | top :: below =>
    match move with
    | .next =>
      match top.next with
      | none => (.node none, bench)
      | some (node, after) => (.node (some node), ⟨after :: below, bench.fetched + 1⟩)
    | .rest =>
      let (nodes, after) := top.take top.size
      (.kinds (nodes.map Node.kind), ⟨after :: below, bench.fetched + nodes.length⟩)
    | .count =>
      let (nodes, after) := top.take top.size
      (.number nodes.length, ⟨after :: below, bench.fetched + nodes.length⟩)
    | .clone => (.number (below.length + 2), ⟨top :: top :: below, bench.fetched⟩)
    | .pop => (.number below.length, ⟨below, bench.fetched⟩)

/-- Make moves one after another: what each shows, with the count of fetches
after it. -/
def run (bench : Bench) : List Move → List (Sight × Nat)
  | [] => []
  | move :: moves =>
    let (sight, after) := bench.step move
    (sight, after.fetched) :: after.run moves

end Bench

end Enclosure
