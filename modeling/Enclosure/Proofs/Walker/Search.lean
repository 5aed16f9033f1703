import Enclosure.Walker

/-!
# Searching through a walk

A search takes one step after another and stops at the first node that satisfies
its condition. Its result is that of looking through the recursive pre-order,
and the number of nodes it meets is the place of the node found, or all of them
when there is none (`Walker.search_eq`).

Both facts follow from what one step does: it takes the first node off the list
of what remains (`Walker.next_cases`).
-/

set_option autoImplicit false

namespace Enclosure.Walker

/-- One step takes the first of the remaining nodes, if there is one. -/
theorem next_cases (walker : Walker) :
    (walker.next = none ∧ Node.preorderAll walker.pending = []) ∨
      ∃ node after, walker.next = some (node, after) ∧ after.size + 1 = walker.size ∧
        Node.preorderAll walker.pending = node :: Node.preorderAll after.pending := by
  obtain ⟨pending⟩ := walker
  cases pending with
  | nil => exact .inl ⟨rfl, Node.preorderAll_nil⟩
  | cons node rest =>
    refine .inr ⟨node, ⟨node.children ++ rest⟩, rfl, ?_, ?_⟩
    · have := node.size_eq
      simp only [size, Node.sizeAll_cons, Node.sizeAll_append]
      omega
    · simp only [Node.preorderAll_cons, Node.preorderAll_append, node.preorder_eq,
        List.cons_append]

/-- A search with enough steps looks through all remaining nodes, and meets those
up to the first that satisfies the condition. -/
theorem seek_of_size_le (wanted : Node → Bool) (limit : Nat) (walker : Walker)
    (enough : walker.size ≤ limit) :
    walker.seek wanted limit =
      ((Node.preorderAll walker.pending).find? wanted,
        min ((Node.preorderAll walker.pending).findIdx wanted + 1)
          (Node.preorderAll walker.pending).length) := by
  induction limit generalizing walker with
  | zero =>
    rcases walker.next_cases with ⟨-, nothing⟩ | ⟨node, after, -, size, -⟩
    · simp [seek, nothing]
    · omega
  | succ limit ih =>
    rcases walker.next_cases with ⟨stopped, nothing⟩ | ⟨node, after, stepped, size, remaining⟩
    · simp [seek, stopped, nothing]
    · simp only [seek, stepped, remaining]
      by_cases found : wanted node = true
      · simp [found, List.findIdx_cons]
      · rw [if_neg found, ih after (by omega), List.find?_cons_of_neg found]
        simp only [List.findIdx_cons, found, cond_false, List.length_cons, Prod.mk.injEq, true_and]
        omega

/-- **A search by steps looks through the recursive pre-order** and meets no node
behind the one it finds. -/
theorem search_eq (wanted : Node → Bool) (walker : Walker) :
    walker.search wanted =
      ((Node.preorderAll walker.pending).find? wanted,
        min ((Node.preorderAll walker.pending).findIdx wanted + 1)
          (Node.preorderAll walker.pending).length) :=
  seek_of_size_le wanted walker.size walker (Nat.le_refl _)

end Enclosure.Walker
