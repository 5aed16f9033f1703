import Enclosure.KindSet
import Mathlib.Data.List.Pairwise

/-!
# The members of a set of kinds

A set of kinds is built by putting kinds into an ascending list, one after another.
Its members are what was put in (`KindSet.mem_extend`, `KindSet.mem_ofList`), and
because the list is ascending nothing but its members tells a set from another
(`KindSet.eq_of_mem_iff`). In particular a set is the set of the kinds that it lists.
-/

set_option autoImplicit false

namespace Enclosure.KindSet

variable {set : KindSet} {kinds : List String} {kind : String}

theorem contains_iff_mem : set.contains kind = true ↔ kind ∈ set.kinds := by
  rw [contains, List.contains_iff_mem]

/-- The members of an extended set are the old ones and the kinds of the list. -/
theorem mem_extend : kind ∈ (set.extend kinds).kinds ↔ kind ∈ set.kinds ∨ kind ∈ kinds := by
  induction kinds generalizing set with
  | nil => simp [extend]
  | cons head tail ih =>
    have step : set.extend (head :: tail) = (set.insert head).extend tail := rfl
    rw [step, ih, insert, mem_place, List.mem_cons, or_assoc, or_left_comm]

theorem mem_ofList : kind ∈ (ofList kinds).kinds ↔ kind ∈ kinds := by
  rw [ofList, mem_extend]
  simp [empty]

theorem nodup_kinds (set : KindSet) : set.kinds.Nodup := by
  refine set.ordered.imp ?_
  intro first second less same
  exact String.lt_irrefl second (same ▸ less)

/-- **Sets with the same members are the same set.** -/
theorem eq_of_mem_iff {other : KindSet} (same : ∀ kind, kind ∈ set.kinds ↔ kind ∈ other.kinds) :
    set = other := by
  have shuffled : set.kinds.Perm other.kinds :=
    (List.perm_ext_iff_of_nodup set.nodup_kinds other.nodup_kinds).mpr same
  have equal : set.kinds = other.kinds := by
    refine shuffled.eq_of_pairwise ?_ set.ordered other.ordered
    intro first second _ _ less greater
    exact absurd (String.lt_trans less greater) (String.lt_irrefl first)
  obtain ⟨kinds, ordered⟩ := set
  obtain ⟨others, otherOrdered⟩ := other
  subst equal
  rfl

/-- A set is the set of the kinds that it lists. -/
theorem ofList_kinds (set : KindSet) : ofList set.kinds = set :=
  eq_of_mem_iff fun _ => mem_ofList

end Enclosure.KindSet
