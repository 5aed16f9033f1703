import Enclosure.Proofs.Selection.Extremes
import Enclosure.Proofs.Tree.Paths

/-!
# What a search by size says about ancestors

A search compares sizes in pre-order and never looks at ancestry. But wherever the
sizes of candidates do not grow on the way down, its answer has a place in the tree:
under the outermost policy no candidate stands above it, and under the innermost
policy none below (`Selection.exists_place_of_resolve`).

The winner of a search stands at a place of the pre-order, not only in a list of
nodes (`Selection.exists_winner`). What stands above the winner comes before it and
what stands below comes after it, so the two halves of the pre-order are the ones
about which the comparison says something.
-/

set_option autoImplicit false

namespace Enclosure

theorem Policy.Stands.exists_split {policy : Policy} {met : List Node} {best : Node}
    (stands : policy.Stands met (some best)) :
    ∃ before after, met = before ++ best :: after ∧
      (∀ earlier ∈ before, policy.prefers best.span.size earlier.span.size = true) ∧
      ∀ later ∈ after, policy.prefers later.span.size best.span.size = false := by
  cases stands with
  | node before after _ replaces withstands => exact ⟨before, after, rfl, replaces, withstands⟩

namespace Selection

/-- The places at which candidates stand, in pre-order. -/
def candidatePlaces (selection : Selection) (range : LineRange) (tree : Tree) :
    List (List Nat × Node) :=
  tree.places.filter fun place => selection.isCandidate range place.2

/-- No candidate stands above the place. -/
def NoneAbove (selection : Selection) (range : LineRange) (tree : Tree) (path : List Nat) : Prop :=
  ∀ above outer, above <+: path → above ≠ path → tree.at? above = some outer →
    selection.isCandidate range outer = false

/-- No candidate stands below the place. -/
def NoneBelow (selection : Selection) (range : LineRange) (tree : Tree) (path : List Nat) : Prop :=
  ∀ below inner, path <+: below → below ≠ path → tree.at? below = some inner →
    selection.isCandidate range inner = false

/-- The sizes of candidates do not grow on the way down. -/
def Shrinks (selection : Selection) (range : LineRange) (tree : Tree) : Prop :=
  ∀ above path outer inner, above <+: path → tree.at? above = some outer →
    tree.at? path = some inner → selection.isCandidate range outer = true →
    selection.isCandidate range inner = true → inner.span.size ≤ outer.span.size

variable {selection : Selection} {range : LineRange} {tree : Tree}

theorem mem_candidatePlaces {path : List Nat} {node : Node} :
    (path, node) ∈ selection.candidatePlaces range tree ↔
      tree.at? path = some node ∧ selection.isCandidate range node = true := by
  rw [candidatePlaces, List.mem_filter, Tree.mem_places]

theorem map_snd_candidatePlaces :
    (selection.candidatePlaces range tree).map (·.2) =
      selection.candidates tree range.first range.last := by
  rw [← filter_isCandidate_preorder, ← Tree.map_snd_places, List.filter_map]
  rfl

/-- The unit that answers a search is that of a node in the pre-order, which
replaced all candidates before it and was replaced by none behind it. -/
theorem exists_split_of_resolve {unit : StructuralUnit}
    (found : (selection.resolve tree range).value = some unit) :
    ∃ before path node after,
      selection.candidatePlaces range tree = before ++ (path, node) :: after ∧
      unit = node.unit ∧
      (∀ earlier ∈ before,
        selection.policy.prefers node.span.size earlier.2.span.size = true) ∧
      ∀ later ∈ after, selection.policy.prefers later.2.span.size node.span.size = false := by
  simp only [resolve, Walker.drain_eq, Option.map_eq_some_iff] at found
  obtain ⟨best, left, rfl⟩ := found
  have stands := selection.stands_meetAll range tree
  change (selection.meetAll range tree.preorder).best = some best at left
  rw [left] at stands
  obtain ⟨before, after, split, replaces, withstands⟩ := stands.exists_split
  rw [← map_snd_candidatePlaces] at split
  obtain ⟨front, rest, places, rfl, behind⟩ := List.map_eq_append_iff.mp split
  obtain ⟨⟨path, node⟩, back, rfl, rfl, rfl⟩ := List.map_eq_cons_iff.mp behind
  refine ⟨front, path, node, back, places, rfl, ?_, ?_⟩
  · intro earlier member
    exact replaces earlier.2 (List.mem_map_of_mem member)
  · intro later member
    exact withstands later.2 (List.mem_map_of_mem member)

/-- The unit that answers a search is that of a candidate which replaced every
candidate above it and was replaced by none below it. -/
theorem exists_winner {unit : StructuralUnit}
    (found : (selection.resolve tree range).value = some unit) :
    ∃ path node, (path, node) ∈ selection.candidatePlaces range tree ∧ unit = node.unit ∧
      (∀ above outer, above <+: path → above ≠ path →
        (above, outer) ∈ selection.candidatePlaces range tree →
        selection.policy.prefers node.span.size outer.span.size = true) ∧
      ∀ below inner, path <+: below → below ≠ path →
        (below, inner) ∈ selection.candidatePlaces range tree →
        selection.policy.prefers inner.span.size node.span.size = false := by
  obtain ⟨before, path, node, after, split, same, replaces, withstands⟩ :=
    exists_split_of_resolve found
  have preordered : (before ++ (path, node) :: after).Pairwise
      fun earlier later => ¬ later.1 <+: earlier.1 := by
    rw [← split]
    exact tree.pairwise_places.filter _
  obtain ⟨-, behind, ahead⟩ := List.pairwise_append.mp preordered
  rw [split]
  refine ⟨path, node, by simp, same, ?_, ?_⟩
  · intro above outer isAbove different member
    rcases List.mem_append.mp member with earlier | later
    · exact replaces (above, outer) earlier
    · rcases List.mem_cons.mp later with itself | later
      · exact absurd (congrArg Prod.fst itself) different
      · exact absurd isAbove ((List.pairwise_cons.mp behind).1 (above, outer) later)
  · intro below inner isBelow different member
    rcases List.mem_append.mp member with earlier | later
    · exact absurd isBelow (ahead (below, inner) earlier (path, node) List.mem_cons_self)
    · rcases List.mem_cons.mp later with itself | later
      · exact absurd (congrArg Prod.fst itself) different
      · exact withstands (below, inner) later

/-- **The answer of a search has no candidate above it, or none below it**, wherever
sizes do not grow on the way down. -/
theorem exists_place_of_resolve (shrinks : selection.Shrinks range tree) {unit : StructuralUnit}
    (found : (selection.resolve tree range).value = some unit) :
    ∃ path node, tree.at? path = some node ∧ selection.isCandidate range node = true ∧
      unit = node.unit ∧
      (selection.policy = .outermost → selection.NoneAbove range tree path) ∧
      (selection.policy = .innermost → selection.NoneBelow range tree path) := by
  obtain ⟨path, node, winner, same, replaces, withstands⟩ := exists_winner found
  obtain ⟨stands, candidate⟩ := mem_candidatePlaces.mp winner
  refine ⟨path, node, stands, candidate, same, ?_, ?_⟩
  · intro policy above outer isAbove different outerStands
    refine Bool.eq_false_iff.mpr fun outerCandidate => ?_
    have smaller :=
      shrinks above path outer node isAbove outerStands stands outerCandidate candidate
    have larger := replaces above outer isAbove different
      (mem_candidatePlaces.mpr ⟨outerStands, outerCandidate⟩)
    rw [policy, Policy.prefers, decide_eq_true_eq] at larger
    omega
  · intro policy below inner isBelow different innerStands
    refine Bool.eq_false_iff.mpr fun innerCandidate => ?_
    have smaller :=
      shrinks path below node inner isBelow stands innerStands candidate innerCandidate
    have larger := withstands below inner isBelow different
      (mem_candidatePlaces.mpr ⟨innerStands, innerCandidate⟩)
    rw [policy, Policy.prefers, decide_eq_false_iff_not] at larger
    omega

end Selection

end Enclosure
