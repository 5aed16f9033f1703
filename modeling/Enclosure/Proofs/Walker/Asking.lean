import Enclosure.Proofs.Walker.Search

/-!
# Asking for children on record

A walk asks a node for its children exactly when it hands the node out. To see this,
the steps of a walk are taken here with every question put on record (`Node.ask`), and
nothing else looks at children. What a recorded walk gives is what the walk gives, and
the record is the list of the nodes that were handed out (`Walker.run_nextAsking`,
`Walker.run_takeAsking`).

What a walk hands out in some number of steps is the beginning of what it has left, and
the rest is left afterwards (`Walker.take_fst`, `Walker.drain_take`). A search that stops
at the first node of some sort has therefore asked the nodes up to this one, and no
others (`Walker.run_searchAsking_of_findIdx`).
-/

set_option autoImplicit false

namespace Enclosure

/-- The children of a node. That the node was asked for them goes on record. -/
def Node.ask (node : Node) : StateM (List Node) (List Node) := do
  modify (· ++ [node])
  return node.children

namespace Walker

/-! ## Walks on record -/

/-- The next node, and the walk after it. -/
def nextAsking (walker : Walker) : StateM (List Node) (Option (Node × Walker)) :=
  match walker.pending with
  | [] => return none
  | node :: rest => do
    let children ← node.ask
    return some (node, ⟨children ++ rest⟩)

/-- At most `limit` steps: the nodes met, and the walk after them. -/
def takeAsking : (limit : Nat) → Walker → StateM (List Node) (List Node × Walker)
  | 0, walker => return ([], walker)
  | limit + 1, walker => do
    match ← walker.nextAsking with
    | none => return ([], walker)
    | some (node, after) =>
      let (nodes, final) ← takeAsking limit after
      return (node :: nodes, final)

/-- Steps until a node satisfies the condition, at most `limit` of them. -/
def seekAsking (wanted : Node → Bool) :
    (limit : Nat) → Walker → StateM (List Node) (Option Node)
  | 0, _ => return none
  | limit + 1, walker => do
    match ← walker.nextAsking with
    | none => return none
    | some (node, after) => if wanted node then return some node else seekAsking wanted limit after

/-- The first remaining node that satisfies the condition. -/
def searchAsking (wanted : Node → Bool) (walker : Walker) : StateM (List Node) (Option Node) :=
  walker.seekAsking wanted walker.size

theorem run_bind {α β : Type} (first : StateM (List Node) α) (further : α → StateM (List Node) β)
    (asked : List Node) :
    (first >>= further).run asked = (further (first.run asked).1).run (first.run asked).2 := rfl

theorem run_nextAsking (walker : Walker) (asked : List Node) :
    walker.nextAsking.run asked = (walker.next, asked ++ (walker.next.map (·.1)).toList) := by
  obtain ⟨pending⟩ := walker
  cases pending with
  | nil =>
    rw [next, Option.map_none, Option.toList_none, List.append_nil]
    rfl
  | cons node rest => rfl

theorem run_takeAsking (limit : Nat) (walker : Walker) (asked : List Node) :
    (walker.takeAsking limit).run asked = (walker.take limit, asked ++ (walker.take limit).1) := by
  induction limit generalizing walker asked with
  | zero =>
    rw [take, List.append_nil]
    rfl
  | succ limit ih =>
    rw [takeAsking, run_bind, run_nextAsking]
    cases stepped : walker.next with
    | none =>
      simp only [take, stepped, Option.map_none, Option.toList_none, List.append_nil]
      rfl
    | some pair =>
      obtain ⟨node, after⟩ := pair
      simp only [take, stepped, Option.map_some, Option.toList_some]
      rw [run_bind, ih, List.append_assoc, List.singleton_append]
      rfl

theorem run_seekAsking (wanted : Node → Bool) (limit : Nat) (walker : Walker)
    (asked : List Node) :
    (walker.seekAsking wanted limit).run asked =
      ((walker.seek wanted limit).1, asked ++ (walker.take (walker.seek wanted limit).2).1) := by
  induction limit generalizing walker asked with
  | zero =>
    rw [seek, take, List.append_nil]
    rfl
  | succ limit ih =>
    rw [seekAsking, run_bind, run_nextAsking]
    cases stepped : walker.next with
    | none =>
      simp only [seek, take, stepped, Option.map_none, Option.toList_none, List.append_nil]
      rfl
    | some pair =>
      obtain ⟨node, after⟩ := pair
      simp only [seek, stepped, Option.map_some, Option.toList_some]
      by_cases found : wanted node = true
      · simp only [found, if_true, take, stepped]
        rfl
      · rw [if_neg found, if_neg found, ih, List.append_assoc, List.singleton_append]
        simp only [take, stepped]

/-! ## What is handed out, and what is left -/

theorem drain_ofTree (tree : Tree) : (ofTree tree).drain = tree.preorder := drain_eq _

theorem drain_cases (walker : Walker) :
    (walker.next = none ∧ walker.drain = []) ∨
      ∃ node after, walker.next = some (node, after) ∧ walker.drain = node :: after.drain := by
  rcases walker.next_cases with ⟨stopped, nothing⟩ | ⟨node, after, stepped, -, remaining⟩
  · exact .inl ⟨stopped, walker.drain_eq.trans nothing⟩
  · exact .inr ⟨node, after, stepped, by rw [drain_eq, drain_eq, remaining]⟩

theorem take_fst (limit : Nat) (walker : Walker) :
    (walker.take limit).1 = walker.drain.take limit := by
  induction limit generalizing walker with
  | zero => rfl
  | succ limit ih =>
    rcases walker.drain_cases with ⟨stopped, nothing⟩ | ⟨node, after, stepped, remaining⟩
    · simp only [take, stopped, nothing, List.take_nil]
    · simp only [take, stepped, remaining, List.take_succ_cons, ih]

theorem drain_take (limit : Nat) (walker : Walker) :
    (walker.take limit).2.drain = walker.drain.drop limit := by
  induction limit generalizing walker with
  | zero => rfl
  | succ limit ih =>
    rcases walker.drain_cases with ⟨stopped, nothing⟩ | ⟨node, after, stepped, remaining⟩
    · simp only [take, stopped, nothing, List.drop_nil]
    · simp only [take, stepped, remaining, List.drop_succ_cons, ih]

/-! ## Searches on record -/

theorem search_of_findIdx {wanted : Node → Bool} {walker : Walker} {index : Nat}
    (first : walker.drain.findIdx? wanted = some index) :
    walker.search wanted = (walker.drain[index]?, index + 1) := by
  have found : walker.drain.find? wanted = walker.drain[index]? := by
    rw [List.find?_eq_bind_findIdx?_getElem?, first, Option.bind_some]
  obtain ⟨inside, place⟩ := List.findIdx?_eq_some_iff_findIdx_eq.mp first
  rw [search_eq, ← drain_eq, found, place, Nat.min_eq_left inside]

/-- **A search asks the nodes up to the one it finds**, each of them once, and no node
behind it. -/
theorem run_searchAsking_of_findIdx {wanted : Node → Bool} {walker : Walker} {index : Nat}
    (first : walker.drain.findIdx? wanted = some index) (asked : List Node) :
    (walker.searchAsking wanted).run asked =
      (walker.drain[index]?, asked ++ walker.drain.take (index + 1)) := by
  have result : walker.seek wanted walker.size = (walker.drain[index]?, index + 1) :=
    search_of_findIdx first
  rw [searchAsking, run_seekAsking, result, take_fst]

end Walker

/-! ## Moves on record -/

/-- How often a move asks the topmost walk for its next node. -/
def Move.calls (top : Walker) : Move → Nat
  | .next => 1
  | .rest => top.size
  | .count => top.size
  | .clone => 0
  | .pop => 0

namespace Bench

/-- One move, with every question for children on record: what it shows, and the stack of
walks after it. -/
def stepAsking (walkers : List Walker) (move : Move) :
    StateM (List Node) (Sight × List Walker) :=
  match walkers with
  | [] => return (.node none, [])
  | top :: below =>
    match move with
    | .next => do
      match ← top.nextAsking with
      | none => return (.node none, top :: below)
      | some (node, after) => return (.node (some node), after :: below)
    | .rest => do
      let (nodes, after) ← top.takeAsking top.size
      return (.kinds (nodes.map Node.kind), after :: below)
    | .count => do
      let (nodes, after) ← top.takeAsking top.size
      return (.number nodes.length, after :: below)
    | .clone => return (.number (below.length + 2), top :: top :: below)
    | .pop => return (.number below.length, below)

/-- A move shows the same on record, and the record grows by the nodes that it takes from
the topmost walk. -/
theorem run_stepAsking (top : Walker) (below : List Walker) (fetched : Nat) (move : Move)
    (asked : List Node) :
    (stepAsking (top :: below) move).run asked =
      (((step ⟨top :: below, fetched⟩ move).1, (step ⟨top :: below, fetched⟩ move).2.walkers),
        asked ++ (top.take (move.calls top)).1) := by
  cases move with
  | next =>
    rw [stepAsking, Walker.run_bind, Walker.run_nextAsking]
    cases stepped : top.next <;>
      simp only [step, Move.calls, Walker.take, stepped] <;> rfl
  | rest | count =>
    rw [stepAsking, Walker.run_bind, Walker.run_takeAsking]
    rfl
  | clone | pop => exact congrArg _ (List.append_nil asked).symm

/-- The next node is the only one of a walk of one step. -/
theorem step_next (top : Walker) (below : List Walker) (fetched : Nat) :
    step ⟨top :: below, fetched⟩ .next = (.node top.drain.head?,
      ⟨(top.take 1).2 :: below, fetched + (top.take 1).1.length⟩) := by
  rcases top.drain_cases with ⟨stopped, nothing⟩ | ⟨node, after, stepped, remaining⟩
  · simp only [step, Walker.take, stopped, nothing]
    rfl
  · simp only [step, Walker.take, stepped, remaining]
    rfl

theorem run_cons (bench : Bench) (move : Move) (moves : List Move) :
    bench.run (move :: moves) =
      ((bench.step move).1, (bench.step move).2.fetched) :: (bench.step move).2.run moves := rfl

end Bench

end Enclosure
