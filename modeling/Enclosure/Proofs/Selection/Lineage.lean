import Enclosure.Proofs.Selection.Ancestry

/-!
# Lookups in trees whose lines are parted

In many trees the lines themselves are nested: the lines of a child are lines of its
parent, and no line belongs to two children of one node (`Node.PartsLines`). Then a
line has a lineage: the nodes that hold it stand on one path from the root
(`Tree.prefix_or_prefix_of_holds`).

All candidates hold the first line asked for, so they stand on one path. The
outermost answer is the one nearest to the root, and the innermost answer the
deepest. A range of lines that reaches into two children of a node is held by neither
of them, so only the node and what is above it can answer.
-/

set_option autoImplicit false

namespace Enclosure

/-- The line is one of the span. -/
def LineSpan.Holds (span : LineSpan) (line : UInt64) : Prop :=
  span.first ≤ line ∧ line ≤ span.last

/-- Some line of the range is one of the span. -/
def LineRange.Touches (range : LineRange) (span : LineSpan) : Prop :=
  ∃ line, range.first ≤ line ∧ line ≤ range.last ∧ span.Holds line

/-- The lines of the children are lines of the node, and no line belongs to two
children. -/
structure Node.PartsLines (node : Node) : Prop where
  inside : ∀ child ∈ node.children, ∀ line, child.span.Holds line → node.span.Holds line
  apart : node.children.Pairwise fun first second =>
    ∀ line, ¬ (first.span.Holds line ∧ second.span.Holds line)

/-- Every node parts its lines among its children. -/
def Tree.PartsLines (tree : Tree) : Prop := ∀ node ∈ tree.preorder, node.PartsLines

/-! ## Parting lines can be decided by looking at first and last lines -/

namespace LineSpan

theorem holds_imp_holds_iff {outer inner : LineSpan} :
    (∀ line, inner.Holds line → outer.Holds line) ↔
      inner.last < inner.first ∨ outer.first ≤ inner.first ∧ inner.last ≤ outer.last := by
  constructor
  · intro inside
    by_cases empty : inner.last < inner.first
    · exact .inl empty
    · rw [UInt64.not_lt] at empty
      exact .inr ⟨(inside inner.first ⟨UInt64.le_rfl, empty⟩).1,
        (inside inner.last ⟨empty, UInt64.le_rfl⟩).2⟩
  · rintro (empty | ⟨starts, stops⟩) line ⟨first, last⟩
    · exact absurd (UInt64.le_trans first last) (UInt64.not_le.mpr empty)
    · exact ⟨UInt64.le_trans starts first, UInt64.le_trans last stops⟩

theorem not_holds_and_holds_iff {first second : LineSpan} :
    (∀ line, ¬ (first.Holds line ∧ second.Holds line)) ↔
      first.last < first.first ∨ second.last < second.first ∨ first.last < second.first ∨
        second.last < first.first := by
  simp only [Holds, UInt64.lt_iff_toNat_lt, UInt64.le_iff_toNat_le]
  constructor
  · intro apart
    -- The later of the two first lines would be a common line.
    have atFirst := apart first.first
    have atSecond := apart second.first
    omega
  · intro parted line held
    omega

end LineSpan

instance (node : Node) : Decidable node.PartsLines :=
  decidable_of_iff
    ((∀ child ∈ node.children, child.span.last < child.span.first ∨
        node.span.first ≤ child.span.first ∧ child.span.last ≤ node.span.last) ∧
      node.children.Pairwise fun first second => first.span.last < first.span.first ∨
        second.span.last < second.span.first ∨ first.span.last < second.span.first ∨
        second.span.last < first.span.first)
    (by
      simp only [← LineSpan.holds_imp_holds_iff, ← LineSpan.not_holds_and_holds_iff]
      exact ⟨fun ⟨inside, apart⟩ => ⟨inside, apart⟩, fun parts => ⟨parts.inside, parts.apart⟩⟩)

instance (tree : Tree) : Decidable tree.PartsLines :=
  inferInstanceAs (Decidable (∀ node ∈ tree.preorder, node.PartsLines))

/-! ## The lineage of a line -/

namespace Node

theorem PartsLines.index_eq {node : Node} (parts : node.PartsLines) {first second : Node}
    {index other : Nat} (firstTaken : node.children[index]? = some first)
    (secondTaken : node.children[other]? = some second) {line : UInt64}
    (firstHolds : first.span.Holds line) (secondHolds : second.span.Holds line) :
    index = other := by
  obtain ⟨bound, rfl⟩ := List.getElem?_eq_some_iff.mp firstTaken
  obtain ⟨otherBound, rfl⟩ := List.getElem?_eq_some_iff.mp secondTaken
  have apart := List.pairwise_iff_getElem.mp parts.apart
  rcases Nat.lt_trichotomy index other with less | same | greater
  · exact absurd ⟨firstHolds, secondHolds⟩ (apart index other bound otherBound less line)
  · exact same
  · exact absurd ⟨secondHolds, firstHolds⟩ (apart other index otherBound bound greater line)

theorem holds_of_at? {node found : Node} (parts : ∀ parent ∈ node.preorder, parent.PartsLines)
    {path : List Nat} (leads : node.at? path = some found) {line : UInt64}
    (holds : found.span.Holds line) : node.span.Holds line := by
  refine relates_of_at? (fun outer inner => inner.span.Holds line → outer.span.Holds line)
    (fun _ => id) (fun _ _ _ upper lower => upper ∘ lower) ?_ leads holds
  intro parent below child member
  exact (parts parent below).inside child member line

/-- Two places at which nodes hold the same line lie one above the other. -/
theorem prefix_or_prefix_of_holds {node found second : Node} {path other : List Nat}
    (parts : ∀ parent ∈ node.preorder, parent.PartsLines) (leads : node.at? path = some found)
    (leadsToo : node.at? other = some second) {line : UInt64} (holds : found.span.Holds line)
    (holdsToo : second.span.Holds line) : path <+: other ∨ other <+: path := by
  induction path generalizing node other with
  | nil => exact .inl List.nil_prefix
  | cons index path ih =>
    cases other with
    | nil => exact .inr List.nil_prefix
    | cons otherIndex other =>
      obtain ⟨child, taken, further⟩ := at?_cons_eq_some.mp leads
      obtain ⟨otherChild, otherTaken, otherFurther⟩ := at?_cons_eq_some.mp leadsToo
      have below {child : Node} {index : Nat} (taken : node.children[index]? = some child) :
          ∀ parent ∈ child.preorder, parent.PartsLines := fun parent member =>
        parts parent (preorder_subset_of_mem_children (List.mem_of_getElem? taken) member)
      -- The line belongs to the child on either way, so both ways go to one child.
      have same : index = otherIndex :=
        (parts node (mem_preorder.mpr ⟨[], rfl⟩)).index_eq taken otherTaken
          (holds_of_at? (below taken) further holds)
          (holds_of_at? (below otherTaken) otherFurther holdsToo)
      subst same
      rw [taken] at otherTaken
      cases otherTaken
      simp only [List.prefix_cons_inj]
      exact ih (below taken) further otherFurther

end Node

namespace Tree

variable {tree : Tree}

theorem holds_of_prefix (parts : tree.PartsLines) {above path : List Nat} {outer inner : Node}
    (isAbove : above <+: path) (outerStands : tree.at? above = some outer)
    (innerStands : tree.at? path = some inner) {line : UInt64} (holds : inner.span.Holds line) :
    outer.span.Holds line := by
  refine relates_of_prefix (fun outer inner => inner.span.Holds line → outer.span.Holds line)
    (fun _ => id) (fun _ _ _ upper lower => upper ∘ lower) ?_ isAbove outerStands innerStands holds
  intro parent listed child member
  exact (parts parent listed).inside child member line

/-- **A line has a lineage**: of two places at which nodes hold it, one lies above the
other. -/
theorem prefix_or_prefix_of_holds (parts : tree.PartsLines) {path other : List Nat}
    {node found : Node} (stands : tree.at? path = some node)
    (otherStands : tree.at? other = some found) {line : UInt64} (holds : node.span.Holds line)
    (otherHolds : found.span.Holds line) :
    path <+: other ∨ other <+: path := by
  cases tree with
  | none => cases stands
  | some root =>
    refine Node.prefix_or_prefix_of_holds ?_ stands otherStands holds otherHolds
    intro parent below
    refine parts parent (mem_preorder.mpr ?_)
    exact Node.mem_preorder.mp below

/-- A node that holds a line of a child stands above the child or in it. -/
theorem prefix_or_concat_prefix_of_holds (parts : tree.PartsLines) {path other : List Nat}
    {node found child : Node} {index : Nat} (stands : tree.at? path = some node)
    (taken : node.children[index]? = some child) (otherStands : tree.at? other = some found)
    {line : UInt64} (holds : found.span.Holds line) (childHolds : child.span.Holds line) :
    other <+: path ∨ path ++ [index] <+: other := by
  have childStands : tree.at? (path ++ [index]) = some child := by
    rw [at?_append, stands, Option.bind_some]
    exact Node.at?_cons_eq_some.mpr ⟨child, taken, rfl⟩
  rcases prefix_or_prefix_of_holds parts otherStands childStands holds childHolds with above | below
  · rcases List.prefix_concat_iff.mp above with itself | above
    · exact .inr (itself ▸ List.prefix_rfl)
    · exact .inl above
  · exact .inr below

/-- A node that holds lines of two children of another node stands at that node or
above it. -/
theorem prefix_of_holds_two (parts : tree.PartsLines) {path other : List Nat}
    {node found first second : Node} {index otherIndex : Nat}
    (stands : tree.at? path = some node) (firstTaken : node.children[index]? = some first)
    (secondTaken : node.children[otherIndex]? = some second) (different : index ≠ otherIndex)
    (otherStands : tree.at? other = some found) {line otherLine : UInt64}
    (holds : found.span.Holds line) (firstHolds : first.span.Holds line)
    (holdsToo : found.span.Holds otherLine) (secondHolds : second.span.Holds otherLine) :
    other <+: path := by
  rcases prefix_or_concat_prefix_of_holds parts stands firstTaken otherStands holds firstHolds with
    above | inFirst
  · exact above
  rcases prefix_or_concat_prefix_of_holds parts stands secondTaken otherStands holdsToo
    secondHolds with above | inSecond
  · exact above
  -- A path into one child is not a path into another.
  have both := List.prefix_of_prefix_length_le inFirst inSecond (by simp)
  rw [List.prefix_append_right_inj, List.cons_prefix_cons] at both
  exact absurd both.1 different

end Tree

/-! ## Candidates on a lineage -/

/-- A node of one of the kinds, whose lines contain the range, stands at the place. -/
def Tree.CandidateAt (tree : Tree) (kinds : KindSet) (range : LineRange) (path : List Nat)
    (node : Node) : Prop :=
  tree.at? path = some node ∧ kinds.contains node.kind = true ∧ node.span.contains range = true

theorem LineSpan.holds_of_contains {span : LineSpan} {range : LineRange}
    (contains : span.contains range = true) {line : UInt64} (starts : range.first ≤ line)
    (stops : line ≤ range.last) : span.Holds line := by
  simp only [LineSpan.contains, Bool.and_eq_true, decide_eq_true_eq] at contains
  exact ⟨UInt64.le_trans contains.1 starts, UInt64.le_trans stops contains.2⟩

theorem LineSpan.holds_first_of_contains {span : LineSpan} {range : LineRange}
    (contains : span.contains range = true) : span.Holds range.first :=
  holds_of_contains contains UInt64.le_rfl range.first_le_last

theorem LineSpan.first_le_last_of_contains {span : LineSpan} {range : LineRange}
    (contains : span.contains range = true) : span.first ≤ span.last := by
  have holds := holds_first_of_contains contains
  exact UInt64.le_trans holds.1 holds.2

namespace Selection

variable {tree : Tree} {kinds : KindSet} {range : LineRange}

theorem isCandidate_iff {policy : Policy} {node : Node} :
    (Selection.mk kinds policy).isCandidate range node = true ↔
      kinds.contains node.kind = true ∧ node.span.contains range = true := by
  rw [isCandidate, Bool.and_eq_true]

/-- The lines of a candidate are lines of everything above it. -/
theorem span_bounds_of_prefix (parts : tree.PartsLines) {above path : List Nat}
    {outer inner : Node} (isAbove : above <+: path) (outerStands : tree.at? above = some outer)
    (innerStands : tree.at? path = some inner) (contains : inner.span.contains range = true) :
    outer.span.first ≤ inner.span.first ∧ inner.span.last ≤ outer.span.last := by
  have ordered := LineSpan.first_le_last_of_contains contains
  have first := Tree.holds_of_prefix parts isAbove outerStands innerStands ⟨UInt64.le_rfl, ordered⟩
  have last := Tree.holds_of_prefix parts isAbove outerStands innerStands ⟨ordered, UInt64.le_rfl⟩
  exact ⟨first.1, last.2⟩

theorem shrinks_of_partsLines (parts : tree.PartsLines) (policy : Policy) :
    (Selection.mk kinds policy).Shrinks range tree := by
  intro above path outer inner isAbove outerStands innerStands _ innerCandidate
  obtain ⟨starts, stops⟩ := span_bounds_of_prefix parts isAbove outerStands innerStands
    (isCandidate_iff.mp innerCandidate).2
  rw [UInt64.le_iff_toNat_le] at starts stops
  simp only [LineSpan.size]
  omega

theorem prefix_or_prefix_of_candidateAt (parts : tree.PartsLines) {path other : List Nat}
    {node found : Node} (candidate : tree.CandidateAt kinds range path node)
    (otherCandidate : tree.CandidateAt kinds range other found) :
    path <+: other ∨ other <+: path :=
  Tree.prefix_or_prefix_of_holds parts candidate.1 otherCandidate.1
    (LineSpan.holds_first_of_contains candidate.2.2)
    (LineSpan.holds_first_of_contains otherCandidate.2.2)

/-- When there is a candidate, a search answers with one, which is an end of the path on
which the candidates stand. -/
theorem exists_answer (parts : tree.PartsLines) {path : List Nat} {node : Node}
    (candidate : tree.CandidateAt kinds range path node) (policy : Policy) :
    ∃ place answer, tree.CandidateAt kinds range place answer ∧
      ((Selection.mk kinds policy).resolve tree range).value = some answer.unit ∧
      (policy = .outermost → (Selection.mk kinds policy).NoneAbove range tree place) ∧
      (policy = .innermost → (Selection.mk kinds policy).NoneBelow range tree place) := by
  have answered : ((Selection.mk kinds policy).resolve tree range).value ≠ none := by
    intro nothing
    have member : (path, node) ∈ (Selection.mk kinds policy).candidatePlaces range tree :=
      mem_candidatePlaces.mpr ⟨candidate.1, isCandidate_iff.mpr candidate.2⟩
    have listed := List.mem_map_of_mem (f := Prod.snd) member
    rw [map_snd_candidatePlaces, (resolve_value_eq_none_iff _ range tree).mp nothing] at listed
    cases listed
  obtain ⟨unit, found⟩ := Option.ne_none_iff_exists'.mp answered
  obtain ⟨place, answer, stands, isCandidate, same, ends⟩ :=
    exists_place_of_resolve (shrinks_of_partsLines parts policy) found
  exact ⟨place, answer, ⟨stands, isCandidate_iff.mp isCandidate⟩, same ▸ found, ends⟩

/-- The outermost answer is the candidate nearest to the root. -/
theorem exists_top (parts : tree.PartsLines) {path : List Nat} {node : Node}
    (candidate : tree.CandidateAt kinds range path node) :
    ∃ top outer, tree.CandidateAt kinds range top outer ∧
      ((Selection.mk kinds .outermost).resolve tree range).value = some outer.unit ∧
      ∀ path node, tree.CandidateAt kinds range path node → top <+: path := by
  obtain ⟨top, outer, topCandidate, found, noneAbove, -⟩ := exists_answer parts candidate .outermost
  refine ⟨top, outer, topCandidate, found, ?_⟩
  intro path node candidate
  rcases prefix_or_prefix_of_candidateAt parts topCandidate candidate with below | above
  · exact below
  · by_cases itself : path = top
    · exact itself ▸ List.prefix_rfl
    · have silent := noneAbove rfl path node above itself candidate.1
      rw [isCandidate_iff.mpr candidate.2] at silent
      cases silent

/-- The innermost answer is the deepest candidate. -/
theorem exists_bottom (parts : tree.PartsLines) {path : List Nat} {node : Node}
    (candidate : tree.CandidateAt kinds range path node) :
    ∃ bottom inner, tree.CandidateAt kinds range bottom inner ∧
      ((Selection.mk kinds .innermost).resolve tree range).value = some inner.unit ∧
      ∀ path node, tree.CandidateAt kinds range path node → path <+: bottom := by
  obtain ⟨bottom, inner, bottomCandidate, found, -, noneBelow⟩ :=
    exists_answer parts candidate .innermost
  refine ⟨bottom, inner, bottomCandidate, found, ?_⟩
  intro path node candidate
  rcases prefix_or_prefix_of_candidateAt parts candidate bottomCandidate with above | below
  · exact above
  · by_cases itself : path = bottom
    · exact itself ▸ List.prefix_rfl
    · have silent := noneBelow rfl path node below itself candidate.1
      rw [isCandidate_iff.mpr candidate.2] at silent
      cases silent

theorem exists_candidateAt_of_resolve {policy : Policy} {unit : StructuralUnit}
    (found : ((Selection.mk kinds policy).resolve tree range).value = some unit) :
    ∃ path node, tree.CandidateAt kinds range path node ∧ unit = node.unit := by
  obtain ⟨path, node, winner, same, -⟩ := exists_winner found
  obtain ⟨stands, isCandidate⟩ := mem_candidatePlaces.mp winner
  exact ⟨path, node, ⟨stands, isCandidate_iff.mp isCandidate⟩, same⟩

/-- A range that reaches into two children of a node is answered from that node or
from above it. -/
theorem exists_above_of_touches_two (parts : tree.PartsLines) {path : List Nat}
    {node first second : Node} {index otherIndex : Nat} (stands : tree.at? path = some node)
    (firstTaken : node.children[index]? = some first)
    (secondTaken : node.children[otherIndex]? = some second) (different : index ≠ otherIndex)
    (touches : range.Touches first.span) (touchesToo : range.Touches second.span)
    {policy : Policy} {unit : StructuralUnit}
    (found : ((Selection.mk kinds policy).resolve tree range).value = some unit) :
    ∃ above outer, above <+: path ∧ tree.CandidateAt kinds range above outer ∧
      unit = outer.unit := by
  obtain ⟨above, outer, candidate, same⟩ := exists_candidateAt_of_resolve found
  obtain ⟨line, starts, stops, firstHolds⟩ := touches
  obtain ⟨otherLine, otherStarts, otherStops, secondHolds⟩ := touchesToo
  have holds := LineSpan.holds_of_contains candidate.2.2 starts stops
  have holdsToo := LineSpan.holds_of_contains candidate.2.2 otherStarts otherStops
  exact ⟨above, outer, Tree.prefix_of_holds_two parts stands firstTaken secondTaken different
    candidate.1 holds firstHolds holdsToo secondHolds, candidate, same⟩

/-- **In a tree that parts its lines, the candidates stand on one path, and the
policies answer with its two ends.** The outermost answer is the candidate nearest to
the root, the innermost one the deepest, and the lines of the second are lines of the
first. A range that reaches into two children of a node is answered only by that node
or one above it, and by nothing when none of these is structural. -/
theorem resolve_of_partsLines {tree : Tree} (parts : tree.PartsLines) (kinds : KindSet)
    (range : LineRange) :
    (∀ path other node found, tree.CandidateAt kinds range path node →
      tree.CandidateAt kinds range other found → path <+: other ∨ other <+: path) ∧
    (∀ path node, tree.CandidateAt kinds range path node →
      ∃ top outer bottom inner, tree.CandidateAt kinds range top outer ∧
        tree.CandidateAt kinds range bottom inner ∧
        (∀ path node, tree.CandidateAt kinds range path node → top <+: path ∧ path <+: bottom) ∧
        ((Selection.mk kinds .outermost).resolve tree range).value = some outer.unit ∧
        ((Selection.mk kinds .innermost).resolve tree range).value = some inner.unit ∧
        outer.span.first ≤ inner.span.first ∧ inner.span.last ≤ outer.span.last) ∧
    ((∀ path node, ¬ tree.CandidateAt kinds range path node) →
      ∀ policy, ((Selection.mk kinds policy).resolve tree range).value = none) ∧
    ∀ path node (index otherIndex : Nat) (first second : Node), tree.at? path = some node →
      node.children[index]? = some first → node.children[otherIndex]? = some second →
      index ≠ otherIndex → range.Touches first.span → range.Touches second.span →
      ∀ policy,
        (∀ unit, ((Selection.mk kinds policy).resolve tree range).value = some unit →
          ∃ above outer, above <+: path ∧ tree.CandidateAt kinds range above outer ∧
            unit = outer.unit) ∧
        ((∀ above outer, above <+: path → tree.at? above = some outer →
            kinds.contains outer.kind = false) →
          ((Selection.mk kinds policy).resolve tree range).value = none) := by
  refine ⟨fun _ _ _ _ => prefix_or_prefix_of_candidateAt parts, ?_, ?_, ?_⟩
  · intro path node candidate
    obtain ⟨top, outer, topCandidate, outermost, highest⟩ := exists_top parts candidate
    obtain ⟨bottom, inner, bottomCandidate, innermost, deepest⟩ := exists_bottom parts candidate
    have bounds := span_bounds_of_prefix parts (highest bottom inner bottomCandidate)
      topCandidate.1 bottomCandidate.1 bottomCandidate.2.2
    refine ⟨top, outer, bottom, inner, topCandidate, bottomCandidate, ?_, outermost, innermost,
      bounds⟩
    intro path node candidate
    exact ⟨highest path node candidate, deepest path node candidate⟩
  · intro noCandidate policy
    refine Option.eq_none_iff_forall_ne_some.mpr fun unit found => ?_
    obtain ⟨path, node, candidate, -⟩ := exists_candidateAt_of_resolve found
    exact noCandidate path node candidate
  · intro path node index otherIndex first second stands firstTaken secondTaken different touches
      touchesToo policy
    have answered : ∀ unit, ((Selection.mk kinds policy).resolve tree range).value = some unit →
        ∃ above outer, above <+: path ∧ tree.CandidateAt kinds range above outer ∧
          unit = outer.unit := fun _ =>
      exists_above_of_touches_two parts stands firstTaken secondTaken different touches touchesToo
    refine ⟨answered, fun unstructured => ?_⟩
    refine Option.eq_none_iff_forall_ne_some.mpr fun unit found => ?_
    obtain ⟨above, outer, isAbove, candidate, -⟩ := answered unit found
    have structural := candidate.2.1
    rw [unstructured above outer isAbove candidate.1] at structural
    cases structural

/-- Two functions on lines 1 to 3 and 4 to 6 of a module: nothing answers for lines 3
to 4. -/
theorem resolve_of_two_functions :
    let first : Node := ⟨"function_definition", ⟨0, 0⟩, ⟨2, 9⟩, false, []⟩
    let second : Node := ⟨"function_definition", ⟨3, 0⟩, ⟨5, 9⟩, false, []⟩
    let tree : Tree := some ⟨"module", ⟨0, 0⟩, ⟨6, 0⟩, false, [first, second]⟩
    let range : LineRange := ⟨3, 4, by decide, by decide⟩
    tree.PartsLines ∧ range.Touches first.span ∧ range.Touches second.span ∧
      ∀ policy, ((Selection.mk .standard policy).resolve tree range).value = none := by
  intro first second tree range
  have parts : tree.PartsLines := by decide +kernel
  have touches : range.Touches first.span := ⟨3, by decide, by decide, by decide, by decide⟩
  have touchesToo : range.Touches second.span := ⟨4, by decide, by decide, by decide, by decide⟩
  refine ⟨parts, touches, touchesToo, fun policy => ?_⟩
  refine ((resolve_of_partsLines parts .standard range).2.2.2 [] _ 0 1 first second rfl rfl rfl
    (by decide) touches touchesToo policy).2 ?_
  intro above outer isAbove stands
  cases List.prefix_nil.mp isAbove
  cases stands
  decide +kernel

end Selection

end Enclosure
