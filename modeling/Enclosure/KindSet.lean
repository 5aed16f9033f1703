/-!
# Sets of node kinds

The kinds that count as structural form a finite set of texts. It is kept as a
strictly ascending list, so that equal sets are equal values and a set is always
listed the same way. Texts are ordered by their code points, which is also the
order of their UTF-8 bytes.
-/

set_option autoImplicit false

namespace Enclosure

/-- A finite set of node kinds, listed in strictly ascending order. -/
structure KindSet where
  kinds : List String
  ordered : kinds.Pairwise (· < ·)
deriving DecidableEq

namespace KindSet

/-- Put a kind at its place in an ascending list, once. -/
def place (kind : String) : List String → List String
  | [] => [kind]
  | head :: tail =>
    if kind < head then kind :: head :: tail
    else if kind = head then head :: tail
    else head :: place kind tail

theorem mem_place {kind other : String} {kinds : List String} :
    other ∈ place kind kinds ↔ other = kind ∨ other ∈ kinds := by
  induction kinds with
  | nil => simp [place]
  | cons head tail ih =>
    unfold place
    split
    · simp
    · split
      · rename_i same
        subst same
        simp
      · simp only [List.mem_cons, ih]
        exact or_left_comm

theorem pairwise_place (kind : String) {kinds : List String}
    (ordered : kinds.Pairwise (· < ·)) : (place kind kinds).Pairwise (· < ·) := by
  induction kinds with
  | nil => simp [place]
  | cons head tail ih =>
    have ⟨below, rest⟩ := List.pairwise_cons.mp ordered
    unfold place
    split
    · rename_i less
      refine List.pairwise_cons.mpr ⟨?_, ordered⟩
      intro other member
      rcases List.mem_cons.mp member with same | later
      · exact same ▸ less
      · exact String.lt_trans less (below other later)
    · split
      · exact ordered
      · rename_i notLess notSame
        refine List.pairwise_cons.mpr ⟨?_, ih rest⟩
        intro other member
        rcases mem_place.mp member with same | later
        · subst same
          exact Std.lt_of_le_of_ne (String.not_lt.mp notLess) (fun same => notSame same.symm)
        · exact below other later

/-- The set without members. -/
def empty : KindSet := ⟨[], .nil⟩

/-- The set with one more member. -/
def insert (set : KindSet) (kind : String) : KindSet :=
  ⟨place kind set.kinds, pairwise_place kind set.ordered⟩

/-- The set with all kinds of a list added. -/
def extend (set : KindSet) (kinds : List String) : KindSet := kinds.foldl insert set

/-- The set of the kinds of a list. -/
def ofList (kinds : List String) : KindSet := empty.extend kinds

/-- The kind is a member. -/
def contains (set : KindSet) (kind : String) : Bool := set.kinds.contains kind

/-- The number of members. -/
def size (set : KindSet) : Nat := set.kinds.length

/-- The set has no members. -/
def isEmpty (set : KindSet) : Bool := set.kinds.isEmpty

/-- The kinds that count as structural when nothing else is said. -/
def standard : KindSet :=
  ofList ["function_definition", "class_definition", "async_function_definition"]

instance : Inhabited KindSet := ⟨empty⟩

end KindSet

end Enclosure
