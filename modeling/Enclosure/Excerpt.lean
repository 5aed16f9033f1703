import Enclosure.Log
import Enclosure.Walker

/-!
# Excerpts of a tree

An excerpt skips some nodes of the pre-order and shows the next ones, up to a
limit. The walk goes no further than the last node shown; when nothing may be
shown it does not start.
-/

set_option autoImplicit false

namespace Enclosure.Tree

/-- The nodes of a tree after the first `skip`, at most `limit` of them when
there is a limit. -/
def excerpt (tree : Tree) (skip : Nat) (limit : Option Nat) : Observed (List Node) :=
  let walker := Walker.ofTree tree
  let reach :=
    match limit with
    | none => walker.size
    | some 0 => 0
    | some shown => skip + shown
  let nodes := (walker.take (min reach walker.size)).1
  { value := nodes.drop skip, fetched := nodes.length }

/-- The number of nodes of a tree, by walking all of it. -/
def count (tree : Tree) : Observed Nat :=
  let nodes := (Walker.ofTree tree).drain
  { value := nodes.length, fetched := nodes.length }

end Enclosure.Tree
