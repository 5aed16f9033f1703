import Mathlib.Data.List.ReduceOption
import Mathlib.Data.List.Forall2
import Enclosure.Checker
import Enclosure.Proofs.Walker.Asking

/-!
# Keeping account of several walks

Several walks over one tree stand in a stack, and every move is made on the topmost one.
A journal keeps account of them. For each walk, whether it still stands in the stack or has
been dropped, it says how much of the pre-order was gone when the walk began, and lists
every answer that the walk has given since, the empty ones included. It also lists all nodes
that were asked for their children, by whichever walk.

Three things hold after every sequence of moves (`Journal.Kept`). The answers of a walk are
the nodes of the pre-order from the place where it began, one after another, and empty once
these are used up. What a walk has left depends on its own account alone, so no walk notices
what is done with another. And the nodes that were asked are those that were handed out.
Each is shown of one move, a number of steps at a time, and then of all of them by induction.
-/

set_option autoImplicit false

namespace Enclosure

/-! ## Windows of a list -/

/-- So many entries of a list, from a place on, and nothing behind its end. -/
def window (nodes : List Node) (origin count : Nat) : List (Option Node) :=
  (List.range count).map fun step => nodes[origin + step]?

@[simp] theorem length_window (nodes : List Node) (origin count : Nat) :
    (window nodes origin count).length = count := by
  rw [window, List.length_map, List.length_range]

theorem window_add (nodes : List Node) (origin count further : Nat) :
    window nodes origin (count + further) =
      window nodes origin count ++ window nodes (origin + count) further := by
  rw [window, List.range_add, List.map_append, List.map_map, window, window]
  congr 1
  refine List.map_congr_left fun step _ => ?_
  rw [Function.comp_apply, Nat.add_assoc]

theorem window_drop (nodes : List Node) (gone count : Nat) :
    window (nodes.drop gone) 0 count = window nodes gone count := by
  refine List.map_congr_left fun step _ => ?_
  rw [List.getElem?_drop, Nat.zero_add]

theorem reduceOption_window (nodes : List Node) (origin count : Nat) :
    (window nodes origin count).reduceOption = (nodes.drop origin).take count := by
  induction count with
  | zero => rfl
  | succ count ih =>
    rw [window_add, List.reduceOption_append, ih, List.take_add_one, List.getElem?_drop]
    exact congrArg _ (List.reduceOption_singleton _)

/-! ## What one walk answers -/

/-- What a walk answers when it is asked for the next node so many times. -/
def Walker.answers : (count : Nat) → Walker → List (Option Node)
  | 0, _ => []
  | count + 1, walker =>
    match walker.next with
    | none => none :: answers count walker
    | some (node, after) => some node :: answers count after

theorem Walker.answers_eq (count : Nat) (walker : Walker) :
    walker.answers count = window walker.drain 0 count := by
  induction count generalizing walker with
  | zero => rfl
  | succ count ih =>
    rw [Nat.add_comm, window_add, ← window_drop _ (0 + 1)]
    rcases walker.drain_cases with ⟨stopped, nothing⟩ | ⟨node, after, stepped, remaining⟩
    · rw [nothing, Nat.add_comm, answers, stopped]
      simp only [ih, nothing]
      rfl
    · rw [remaining, Nat.add_comm, answers, stepped]
      simp only [ih]
      rfl

theorem Walker.length_answers (count : Nat) (walker : Walker) :
    (walker.answers count).length = count := by
  rw [answers_eq, length_window]

theorem Walker.reduceOption_answers (count : Nat) (walker : Walker) :
    (walker.answers count).reduceOption = (walker.take count).1 := by
  rw [answers_eq, reduceOption_window, List.drop_zero, take_fst]

/-- The account of one walk: how many nodes were gone when it began, and what it has
answered since. -/
structure Account where
  origin : Nat
  answers : List (Option Node)

namespace Account

/-- The account of a walk over a whole tree. -/
def opened : Account := ⟨0, []⟩

/-- The nodes that the walk has handed out. -/
def yielded (account : Account) : List Node := account.answers.reduceOption

/-- How many nodes are gone for the walk. -/
def place (account : Account) : Nat := account.origin + account.yielded.length

/-- The account after further answers. -/
def hear (account : Account) (answers : List (Option Node)) : Account :=
  ⟨account.origin, account.answers ++ answers⟩

/-- The account of a copy of the walk, which begins where the walk has come to. -/
def fork (account : Account) : Account := ⟨account.place, []⟩

/-- The answers are the entries of a list from the origin on, and empty behind its end. -/
def Consecutive (nodes : List Node) (account : Account) : Prop :=
  account.answers = window nodes account.origin account.answers.length

theorem yielded_hear (account : Account) (walker : Walker) (count : Nat) :
    (account.hear (walker.answers count)).yielded = account.yielded ++ (walker.take count).1 := by
  rw [← Walker.reduceOption_answers]
  exact List.reduceOption_append _ _

variable {nodes : List Node} {account : Account}

theorem Consecutive.yielded_eq (consecutive : account.Consecutive nodes) :
    account.yielded = (nodes.drop account.origin).take account.answers.length := by
  rw [yielded, consecutive, reduceOption_window, length_window]

/-- Empty answers do not count for the place: they come when nothing is left. -/
theorem Consecutive.drop_place (consecutive : account.Consecutive nodes) :
    nodes.drop account.place = nodes.drop (account.origin + account.answers.length) := by
  have handed : account.yielded.length =
      min account.answers.length (nodes.length - account.origin) := by
    rw [consecutive.yielded_eq, List.length_take, List.length_drop]
  rw [place, handed]
  by_cases enough : account.answers.length ≤ nodes.length - account.origin
  · rw [Nat.min_eq_left enough]
  · rw [List.drop_of_length_le (by omega), List.drop_of_length_le (by omega)]

theorem Consecutive.begun (origin : Nat) : Consecutive nodes ⟨origin, []⟩ := rfl

section Hearing

variable {walker : Walker} (consecutive : account.Consecutive nodes)
  (continued : walker.drain = nodes.drop account.place) (count : Nat)

include consecutive continued

theorem Consecutive.hear : (account.hear (walker.answers count)).Consecutive nodes := by
  have answers : walker.answers count =
      window nodes (account.origin + account.answers.length) count := by
    rw [Walker.answers_eq, continued, consecutive.drop_place, window_drop]
  rw [Consecutive, Account.hear, List.length_append, Walker.length_answers, window_add,
    ← consecutive, answers]

theorem drain_take_eq_drop_place :
    (walker.take count).2.drain = nodes.drop (account.hear (walker.answers count)).place := by
  rw [(consecutive.hear continued count).drop_place, Account.hear, List.length_append,
    Walker.length_answers, Walker.drain_take, continued, consecutive.drop_place, List.drop_drop,
    Nat.add_assoc]

end Hearing

end Account

/-! ## The journal -/

/-- A stack of walks, the nodes that were asked for their children, and the accounts of the
walks: of those in the stack, topmost first, and of those that were dropped. -/
structure Journal where
  bench : Bench
  asked : List Node
  current : List Account
  dropped : List Account

open scoped List

namespace Journal

/-- One fresh walk over a tree. -/
def ofTree (tree : Tree) : Journal := ⟨Bench.ofTree tree, [], [.opened], []⟩

/-- All accounts, of the walks in the stack and of those dropped. -/
def accounts (journal : Journal) : List Account := journal.current ++ journal.dropped

/-- Make one move, and enter it into the account of the topmost walk. -/
def step (journal : Journal) (move : Move) : Journal :=
  let bench := (journal.bench.step move).2
  let asked := ((Bench.stepAsking journal.bench.walkers move).run journal.asked).2
  match journal.bench.walkers, journal.current, move with
  | _ :: _, account :: below, .clone =>
    ⟨bench, asked, account.fork :: account :: below, journal.dropped⟩
  | _ :: _, account :: below, .pop => ⟨bench, asked, below, account :: journal.dropped⟩
  | top :: _, account :: below, _ =>
    ⟨bench, asked, account.hear (top.answers (move.calls top)) :: below, journal.dropped⟩
  | _, _, _ => ⟨bench, asked, journal.current, journal.dropped⟩

/-- Make moves one after another. -/
def run (journal : Journal) (moves : List Move) : Journal := moves.foldl step journal

/-- What a move shows, as told by the accounts. -/
def sight (nodes : List Node) (journal : Journal) (move : Move) : Sight :=
  match journal.current with
  | [] => .node none
  | account :: below =>
    match move with
    | .next => .node nodes[account.place]?
    | .rest => .kinds ((nodes.drop account.place).map Node.kind)
    | .count => .number (nodes.length - account.place)
    | .clone => .number (below.length + 2)
    | .pop => .number below.length

/-- What the journal says of walks over a tree. -/
structure Kept (tree : Tree) (journal : Journal) : Prop where
  /-- Every walk answers with consecutive nodes of the pre-order. -/
  consecutive : ∀ account ∈ journal.accounts, account.Consecutive tree.preorder
  /-- Every walk in the stack goes on where its own answers end. -/
  continued : List.Forall₂ (fun walker account => walker.drain = tree.preorder.drop account.place)
    journal.bench.walkers journal.current
  /-- The nodes asked for their children are the nodes handed out by all walks together. -/
  handed : journal.asked.Perm (journal.accounts.flatMap Account.yielded)
  /-- Every question was counted. -/
  counted : journal.bench.fetched = journal.asked.length

/-! ## One move -/

section Moves

variable {tree : Tree} {top : Walker} {below : List Walker} {fetched : Nat} {asked : List Node}
  {account : Account} {accounts dropped : List Account}

/-- Asking the topmost walk for nodes, however many, keeps the journal. -/
theorem Kept.hear (kept : Kept tree ⟨⟨top :: below, fetched⟩, asked, account :: accounts, dropped⟩)
    (count : Nat) :
    Kept tree ⟨⟨(top.take count).2 :: below, fetched + (top.take count).1.length⟩,
      asked ++ (top.take count).1, account.hear (top.answers count) :: accounts, dropped⟩ := by
  have consecutive := kept.consecutive account List.mem_cons_self
  obtain ⟨topmost, others⟩ := List.forall₂_cons.mp kept.continued
  refine ⟨?_, ?_, ?_, ?_⟩
  · intro other listed
    rcases List.mem_cons.mp listed with rfl | unchanged
    · exact consecutive.hear topmost count
    · exact kept.consecutive other (List.mem_cons_of_mem _ unchanged)
  · exact .cons (Account.drain_take_eq_drop_place consecutive topmost count) others
  · -- The nodes taken now go behind those of the topmost walk, in front of all others.
    have handed : asked ~ account.yielded ++ (accounts ++ dropped).flatMap Account.yielded :=
      kept.handed
    calc asked ++ (top.take count).1
      _ ~ account.yielded ++ (accounts ++ dropped).flatMap Account.yielded ++ (top.take count).1 :=
        handed.append_right _
      _ ~ account.yielded ++ (top.take count).1 ++
          (accounts ++ dropped).flatMap Account.yielded := by
        rw [List.append_assoc, List.append_assoc]
        exact List.perm_append_comm.append_left _
      _ = (account.hear (top.answers count) :: accounts ++ dropped).flatMap Account.yielded := by
        rw [List.cons_append, List.flatMap_cons, Account.yielded_hear]
  · exact (congrArg (· + (top.take count).1.length) kept.counted).trans List.length_append.symm

theorem Kept.fork
    (kept : Kept tree ⟨⟨top :: below, fetched⟩, asked, account :: accounts, dropped⟩) :
    Kept tree ⟨⟨top :: top :: below, fetched⟩, asked, account.fork :: account :: accounts,
      dropped⟩ := by
  obtain ⟨topmost, -⟩ := List.forall₂_cons.mp kept.continued
  refine ⟨?_, .cons topmost kept.continued, kept.handed, kept.counted⟩
  intro other listed
  rcases List.mem_cons.mp listed with rfl | unchanged
  · exact .begun _
  · exact kept.consecutive other unchanged

theorem Kept.drop
    (kept : Kept tree ⟨⟨top :: below, fetched⟩, asked, account :: accounts, dropped⟩) :
    Kept tree ⟨⟨below, fetched⟩, asked, accounts, account :: dropped⟩ := by
  have moved : (account :: accounts ++ dropped).Perm (accounts ++ account :: dropped) :=
    List.perm_middle.symm
  refine ⟨?_, (List.forall₂_cons.mp kept.continued).2, ?_, kept.counted⟩
  · intro other listed
    exact kept.consecutive other (moved.mem_iff.mpr listed)
  · exact kept.handed.trans (moved.flatMap_right _)

/-- What one move does to the journal of a stack that is not empty. -/
theorem step_cases (move : Move) :
    let journal : Journal := ⟨⟨top :: below, fetched⟩, asked, account :: accounts, dropped⟩
    journal.step move = ⟨⟨(top.take (move.calls top)).2 :: below,
        fetched + (top.take (move.calls top)).1.length⟩, asked ++ (top.take (move.calls top)).1,
        account.hear (top.answers (move.calls top)) :: accounts, dropped⟩ ∨
      journal.step move = ⟨⟨top :: top :: below, fetched⟩, asked,
        account.fork :: account :: accounts, dropped⟩ ∨
      journal.step move = ⟨⟨below, fetched⟩, asked, accounts, account :: dropped⟩ := by
  intro journal
  have recorded : ((Bench.stepAsking (top :: below) move).run asked).2 =
      asked ++ (top.take (move.calls top)).1 := by
    rw [Bench.run_stepAsking top below fetched]
  cases move with
  | next =>
    refine .inl ?_
    have asking : (Bench.step ⟨top :: below, fetched⟩ .next).2 =
        ⟨(top.take 1).2 :: below, fetched + (top.take 1).1.length⟩ := by
      rw [Bench.step_next]
    rw [← recorded, Move.calls, ← asking]
    rfl
  | rest | count =>
    refine .inl ?_
    rw [← recorded]
    rfl
  | clone => exact .inr (.inl rfl)
  | pop => exact .inr (.inr rfl)

end Moves

theorem Kept.ofTree (tree : Tree) : Kept tree (Journal.ofTree tree) where
  consecutive := by
    intro account listed
    rw [List.mem_singleton.mp listed]
    exact .begun 0
  continued := .cons (Walker.drain_ofTree tree) .nil
  handed := .nil
  counted := rfl

theorem Kept.step {tree : Tree} {journal : Journal} (kept : Kept tree journal) (move : Move) :
    Kept tree (journal.step move) := by
  obtain ⟨⟨walkers, fetched⟩, asked, current, dropped⟩ := journal
  cases kept.continued with
  | nil => exact kept
  | cons topmost others =>
    rcases step_cases move with heard | forked | left
    · rw [heard]
      exact kept.hear _
    · rw [forked]
      exact kept.fork
    · rw [left]
      exact kept.drop

theorem Kept.run {tree : Tree} {journal : Journal} (kept : Kept tree journal)
    (moves : List Move) : Kept tree (journal.run moves) := by
  induction moves generalizing journal with
  | nil => exact kept
  | cons move moves ih => exact ih (kept.step move)

/-! ## What is seen from outside -/

/-- What a move shows follows from the account of the topmost walk. -/
theorem Kept.sight_eq {tree : Tree} {journal : Journal} (kept : Kept tree journal) (move : Move) :
    (journal.bench.step move).1 = journal.sight tree.preorder move := by
  obtain ⟨⟨walkers, fetched⟩, asked, current, dropped⟩ := journal
  cases kept.continued with
  | nil => rfl
  | @cons top account below accounts topmost others =>
    have depth := others.length_eq
    cases move with
    | next => rw [Bench.step_next, topmost, List.head?_drop, sight]
    | rest => exact congrArg (fun nodes => Sight.kinds (nodes.map Node.kind)) topmost
    | count =>
      have left : top.drain.length = tree.preorder.length - account.place := by
        rw [topmost, List.length_drop]
      exact congrArg Sight.number left
    | clone => exact congrArg (fun length => Sight.number (length + 2)) depth
    | pop => exact congrArg Sight.number depth

theorem bench_step (journal : Journal) (move : Move) :
    (journal.step move).bench = (journal.bench.step move).2 := by
  unfold step
  split <;> rfl

theorem asked_step (journal : Journal) (move : Move) :
    (journal.step move).asked =
      ((Bench.stepAsking journal.bench.walkers move).run journal.asked).2 := by
  unfold step
  split <;> rfl

/-- The step on record is the step of the journal. -/
theorem run_stepAsking_eq (journal : Journal) (move : Move) :
    (Bench.stepAsking journal.bench.walkers move).run journal.asked =
      (((journal.bench.step move).1, (journal.step move).bench.walkers),
        (journal.step move).asked) := by
  rw [bench_step, asked_step]
  obtain ⟨⟨walkers, fetched⟩, asked, current, dropped⟩ := journal
  cases walkers with
  | nil => rfl
  | cons top below => rw [Bench.run_stepAsking top below fetched]

theorem run_concat (journal : Journal) (moves : List Move) (move : Move) :
    journal.bench.run (moves ++ [move]) = journal.bench.run moves ++
      [(((journal.run moves).bench.step move).1,
        ((journal.run moves).step move).bench.fetched)] := by
  induction moves generalizing journal with
  | nil =>
    rw [run, List.foldl_nil, bench_step]
    rfl
  | cons first moves ih =>
    rw [List.cons_append, Bench.run_cons, Bench.run_cons, ← bench_step, ih, List.cons_append]
    rfl

/-- A move leaves all walks but the topmost, and their accounts, as they are. -/
theorem Kept.tail_suffix {tree : Tree} {journal : Journal} (kept : Kept tree journal)
    (move : Move) :
    journal.bench.walkers.tail <:+ (journal.step move).bench.walkers ∧
      journal.current.tail <:+ (journal.step move).current := by
  obtain ⟨⟨walkers, fetched⟩, asked, current, dropped⟩ := journal
  cases kept.continued with
  | nil => exact ⟨List.nil_suffix, List.nil_suffix⟩
  | @cons top account below accounts topmost others =>
    rcases step_cases move with heard | forked | left
    · rw [heard]
      exact ⟨List.suffix_cons _ _, List.suffix_cons _ _⟩
    · rw [forked]
      exact ⟨List.suffix_append [top, top] below, List.suffix_append [_, account] accounts⟩
    · rw [left]
      exact ⟨List.suffix_rfl, List.suffix_rfl⟩

/-- **Walks side by side follow the pre-order, each by itself, and ask for children only
where they hand out a node.** -/
theorem run_follows_preorder (tree : Tree) :
    (∀ moves : List Move,
      let journal := (ofTree tree).run moves
      Kept tree journal ∧
      journal.bench.fetched = (journal.accounts.flatMap Account.yielded).length ∧
      ∀ move : Move,
        (Bench.ofTree tree).run (moves ++ [move]) = (Bench.ofTree tree).run moves ++
          [(journal.sight tree.preorder move, (journal.step move).bench.fetched)] ∧
        (Bench.stepAsking journal.bench.walkers move).run journal.asked =
          ((journal.sight tree.preorder move, (journal.step move).bench.walkers),
            (journal.step move).asked) ∧
        journal.bench.walkers.tail <:+ (journal.step move).bench.walkers ∧
        journal.current.tail <:+ (journal.step move).current) ∧
    (∀ (wanted : Node → Bool) (index : Nat), tree.preorder.findIdx? wanted = some index →
      (Walker.ofTree tree).search wanted = (tree.preorder[index]?, index + 1) ∧
      ((Walker.ofTree tree).searchAsking wanted).run [] =
        (tree.preorder[index]?, tree.preorder.take (index + 1))) ∧
    ∀ (checker : Checker) (index : Nat), tree.preorder.findIdx? checker.marks = some index →
      (checker.firstError tree).fetched = index + 1 := by
  refine ⟨?_, ?_, ?_⟩
  · intro moves journal
    have kept : Kept tree journal := (Kept.ofTree tree).run moves
    refine ⟨kept, kept.counted.trans kept.handed.length_eq, fun move => ?_⟩
    rw [← kept.sight_eq move]
    exact ⟨run_concat (ofTree tree) moves move, run_stepAsking_eq journal move,
      kept.tail_suffix move⟩
  · intro wanted index first
    rw [← Walker.drain_ofTree] at first ⊢
    exact ⟨Walker.search_of_findIdx first, Walker.run_searchAsking_of_findIdx first []⟩
  · intro checker index first
    rw [← Walker.drain_ofTree] at first
    exact congrArg Prod.snd (Walker.search_of_findIdx first)

/-- A walk over a module of two functions is copied after one node. The copy is walked to
its end and dropped, and the walk goes on with the first function. -/
theorem run_over_two_functions :
    let first : Node := ⟨"function", ⟨0, 0⟩, ⟨1, 0⟩, false, [⟨"name", ⟨0, 4⟩, ⟨0, 5⟩, false, []⟩]⟩
    let second : Node := ⟨"function", ⟨2, 0⟩, ⟨3, 0⟩, true, []⟩
    let tree : Tree := some ⟨"module", ⟨0, 0⟩, ⟨3, 0⟩, false, [first, second]⟩
    let moves : List Move := [.next, .clone, .rest, .pop]
    tree.preorder.findIdx? Checker.standard.marks = some 3 ∧
      (Checker.standard.firstError tree).fetched = 4 ∧
      Kept tree ((ofTree tree).run moves) ∧
      (Bench.ofTree tree).run (moves ++ [.next]) =
        (Bench.ofTree tree).run moves ++ [(.node (some first), 5)] := by
  intro first second tree moves
  have marked : tree.preorder.findIdx? Checker.standard.marks = some 3 := by decide +kernel
  obtain ⟨runs, -, checks⟩ := run_follows_preorder tree
  exact ⟨marked, checks Checker.standard 3 marked, (runs moves).1, ((runs moves).2.2 .next).1⟩

end Journal

end Enclosure
