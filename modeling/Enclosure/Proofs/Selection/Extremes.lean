import Enclosure.Analyzer

/-!
# The unit that a lookup answers with

A lookup walks through a tree and keeps one node, which later candidates may
replace. This module says which node is left at the end, without a walk and
without an order of replacement.

The candidates of a tree, listed in pre-order, are the nodes of a structural
kind whose lines contain the lines asked for. Under the outermost policy the
answer is the first of the longest candidates, and under the innermost policy
the last of the shortest (`Policy.choice?`). Nothing is assumed of the tree:
children may stick out of their parents and nodes may end before they start.

The comparison that decides about a replacement is strict for one policy and not
for the other, but the same two facts hold of the node kept under both: it would
replace every candidate before it, and no candidate after it replaces it
(`Policy.Stands`). One step of the search preserves them because the
comparison is transitive and asymmetric in the right places
(`Policy.prefers_of_prefers_of_prefers`, `Policy.prefers_of_not_prefers`), and
they determine the node (`Policy.Stands.eq_choice?`).
-/

set_option autoImplicit false

namespace Enclosure

/-- How far the last line lies behind the first; negative when it lies before
it. -/
def LineSpan.reach (span : LineSpan) : Int := span.last.toNat - span.first.toNat

/-- The structural unit that a node is. -/
def Node.unit (node : Node) : StructuralUnit := .ofSpan node.kind node.span

/-- The nodes of a tree that may answer for the lines `first` to `last`: those of
a structural kind whose lines contain them, in pre-order. -/
def Selection.candidates (selection : Selection) (tree : Tree) (first last : UInt64) :
    List Node :=
  tree.preorder.filter fun node =>
    node.kind ∈ selection.kinds.kinds ∧ node.span.first ≤ first ∧ last ≤ node.span.last

/-- The candidate that a policy asks for: the first of the longest, or the last
of the shortest. -/
def Policy.choice? : Policy → List Node → Option Node
  | outermost, candidates =>
    candidates.find? fun node => ∀ other ∈ candidates, other.span.reach ≤ node.span.reach
  | innermost, candidates =>
    candidates.reverse.find? fun node => ∀ other ∈ candidates, node.span.reach ≤ other.span.reach

/-- **What a lookup owes its caller**: nothing for numbers that name no range of
lines and for a text that cannot be parsed, and else the unit of the candidate
that the policy asks for. -/
def Analyzer.lookup (analyzer : Analyzer) (source : String) (first last : UInt64) : Finding :=
  if first = 0 ∨ last < first then .nothing
  else
    match analyzer.grammar.parse source with
    | .error _ => .nothing
    | .ok tree =>
      ⟨(analyzer.selection.policy.choice?
        (analyzer.selection.candidates tree first last)).map Node.unit⟩

/-! ## The node kept by a search -/

namespace Policy

variable {policy : Policy}

theorem prefers_of_prefers_of_prefers {small middle large : Nat}
    (first : policy.prefers small middle = true) (second : policy.prefers middle large = true) :
    policy.prefers small large = true := by
  cases policy <;> simp only [prefers, decide_eq_true_eq] at * <;> omega

/-- What replaces a node also replaces all that the node withstood. -/
theorem prefers_of_not_prefers {candidate current withstood : Nat}
    (replaces : policy.prefers candidate current = true)
    (withstands : policy.prefers withstood current = false) :
    policy.prefers candidate withstood = true := by
  cases policy <;> simp only [prefers, decide_eq_true_eq, decide_eq_false_iff_not] at * <;> omega

/-- The node left by a search through a list of candidates: it replaces every
candidate before it, and no candidate after it replaces it. A search through
nothing leaves nothing. -/
inductive Stands (policy : Policy) : List Node → Option Node → Prop where
  | nothing : Stands policy [] none
  | node (before after : List Node) (node : Node)
      (replaces : ∀ earlier ∈ before, policy.prefers node.span.size earlier.span.size = true)
      (withstands : ∀ later ∈ after, policy.prefers later.span.size node.span.size = false) :
      Stands policy (before ++ node :: after) (some node)

/-- A node that exceeds all nodes before it, and that no node after it exceeds, is
the first of the greatest. -/
theorem find?_greatest (measure : Node → Int) {before after : List Node} {node : Node}
    (exceeds : ∀ earlier ∈ before, measure earlier < measure node)
    (unexceeded : ∀ later ∈ after, measure later ≤ measure node) :
    (before ++ node :: after).find? (fun candidate =>
      ∀ other ∈ before ++ node :: after, measure other ≤ measure candidate) = some node := by
  refine List.find?_eq_some_iff_append.mpr ⟨?_, before, after, rfl, ?_⟩
  · simp only [decide_eq_true_eq, List.forall_mem_append, List.forall_mem_cons]
    refine ⟨?_, Int.le_refl _, unexceeded⟩
    intro earlier member
    exact Int.le_of_lt (exceeds earlier member)
  · intro earlier member
    simp only [Bool.not_eq_true', decide_eq_false_iff_not]
    intro greatest
    have atLeast : measure node ≤ measure earlier := greatest node (by simp)
    exact Int.not_le.mpr (exceeds earlier member) atLeast

namespace Stands

/-- A further candidate that replaces the node left so far is left itself. -/
theorem replace {met : List Node} {best : Option Node} (stands : policy.Stands met best)
    {candidate : Node}
    (replaces : ∀ current, best = some current →
      policy.prefers candidate.span.size current.span.size = true) :
    policy.Stands (met ++ [candidate]) (some candidate) := by
  refine .node met [] candidate ?_ (by simp)
  intro earlier member
  cases stands with
  | nothing => cases member
  | node before after current beats withstands =>
    have top := replaces current rfl
    rcases List.mem_append.mp member with ahead | behind
    · exact prefers_of_prefers_of_prefers top (beats earlier ahead)
    · rcases List.mem_cons.mp behind with same | later
      · exact same ▸ top
      · exact prefers_of_not_prefers top (withstands earlier later)

/-- A further candidate that does not replace the node left so far changes
nothing. -/
theorem keep {met : List Node} {current : Node} (stands : policy.Stands met (some current))
    {candidate : Node}
    (withstood : policy.prefers candidate.span.size current.span.size = false) :
    policy.Stands (met ++ [candidate]) (some current) := by
  cases stands with
  | node before after _ beats withstands =>
    rw [List.append_assoc, List.cons_append]
    refine .node before (after ++ [candidate]) current beats ?_
    intro later member
    rcases List.mem_append.mp member with earlier | last
    · exact withstands later earlier
    · rw [List.mem_singleton.mp last]
      exact withstood

/-- Something is left exactly when there is a candidate. -/
theorem eq_none_iff {met : List Node} {best : Option Node} (stands : policy.Stands met best) :
    best = none ↔ met = [] := by
  cases stands with
  | nothing => simp
  | node before after node _ _ => simp

/-- **The node left by a search is the one that the policy asks for**, provided
that sizes are exact. -/
theorem eq_choice? {met : List Node} {best : Option Node} (stands : policy.Stands met best)
    (exactly : ∀ node ∈ met, (node.span.size : Int) = node.span.reach) :
    best = policy.choice? met := by
  cases stands with
  | nothing => cases policy <;> rfl
  | node before after node replaces withstands =>
    obtain ⟨ahead, own, behind⟩ := by
      simpa only [List.forall_mem_append, List.forall_mem_cons] using exactly
    symm
    cases policy with
    | outermost =>
      refine find?_greatest (fun node => node.span.reach) ?_ ?_
      · intro earlier member
        have larger := replaces earlier member
        have size := ahead earlier member
        simp only [prefers, decide_eq_true_eq] at larger
        omega
      · intro later member
        have notLarger := withstands later member
        have size := behind later member
        simp only [prefers, decide_eq_false_iff_not] at notLarger
        omega
    | innermost =>
      -- The last of the shortest is the first of the longest, seen from the end and
      -- with all lengths negated.
      have shorter : ∀ later ∈ after.reverse, -later.span.reach < -node.span.reach := by
        intro later member
        have notSmaller := withstands later (List.mem_reverse.mp member)
        have size := behind later (List.mem_reverse.mp member)
        simp only [prefers, decide_eq_false_iff_not] at notSmaller
        omega
      have notLonger : ∀ earlier ∈ before.reverse, -earlier.span.reach ≤ -node.span.reach := by
        intro earlier member
        have notLarger := replaces earlier (List.mem_reverse.mp member)
        have size := ahead earlier (List.mem_reverse.mp member)
        simp only [prefers, decide_eq_true_eq] at notLarger
        omega
      have backwards : (before ++ node :: after).reverse =
          after.reverse ++ node :: before.reverse := by
        simp
      have found := find?_greatest (fun node => -node.span.reach) shorter notLonger
      simp only [← backwards, List.mem_reverse, Int.neg_le_neg_iff] at found
      exact found

end Stands

end Policy

/-! ## A search step by step -/

namespace Selection

variable (selection : Selection) (range : LineRange)

/-- One step: the candidates met so far grow by the node, if it is one. -/
theorem stands_meet {progress : Progress} {met : List Node}
    (stands : selection.policy.Stands met progress.best) (node : Node) :
    selection.policy.Stands (met ++ [node].filter (selection.isCandidate range))
      (selection.meet range progress node).best := by
  unfold meet
  by_cases candidate : selection.isCandidate range node = true
  · simp only [candidate, List.filter_cons_of_pos, List.filter_nil, Bool.true_and]
    cases best : progress.best with
    | none =>
      rw [best] at stands
      exact stands.replace (by simp)
    | some current =>
      rw [best] at stands
      by_cases better : selection.policy.prefers node.span.size current.span.size = true
      · rw [if_pos (by simpa only [replaces] using better)]
        refine stands.replace fun other same => ?_
        cases same
        exact better
      · rw [if_neg (by simpa only [replaces] using better), best]
        exact stands.keep (by simpa using better)
  · rw [List.filter_cons_of_neg candidate, List.filter_nil, List.append_nil]
    simpa [candidate] using stands

/-- A whole search, started after some candidates were met. -/
theorem stands_foldl_meet (nodes : List Node) (progress : Progress) {met : List Node}
    (stands : selection.policy.Stands met progress.best) :
    selection.policy.Stands (met ++ nodes.filter (selection.isCandidate range))
      (nodes.foldl (selection.meet range) progress).best := by
  induction nodes generalizing progress met with
  | nil => simpa using stands
  | cons node rest ih =>
    have split : (node :: rest).filter (selection.isCandidate range) =
        [node].filter (selection.isCandidate range) ++
          rest.filter (selection.isCandidate range) := by
      rw [← List.filter_append, List.singleton_append]
    rw [split, ← List.append_assoc, List.foldl_cons]
    exact ih _ (selection.stands_meet range stands node)

/-- The candidates that a search meets in a tree are the candidates of the
tree. -/
theorem filter_isCandidate_preorder (tree : Tree) :
    tree.preorder.filter (selection.isCandidate range) =
      selection.candidates tree range.first range.last := by
  refine List.filter_congr fun node _ => ?_
  simp [isCandidate, KindSet.contains, LineSpan.contains]

/-- Between the ends of a candidate there is room for the lines asked for, so
its last line does not lie before its first. -/
theorem size_eq_reach {tree : Tree} {first last : UInt64} (ordered : first ≤ last) {node : Node}
    (candidate : node ∈ selection.candidates tree first last) :
    (node.span.size : Int) = node.span.reach := by
  simp only [candidates, List.mem_filter, decide_eq_true_eq] at candidate
  obtain ⟨-, -, starts, ends⟩ := candidate
  rw [UInt64.le_iff_toNat_le] at ordered starts ends
  simp only [LineSpan.size, LineSpan.reach]
  omega

/-- The node left by a search through a whole tree. -/
theorem stands_meetAll (tree : Tree) :
    selection.policy.Stands (selection.candidates tree range.first range.last)
      (selection.meetAll range tree.preorder).best := by
  rw [← filter_isCandidate_preorder]
  exact selection.stands_foldl_meet range tree.preorder {} .nothing

theorem best_meetAll (tree : Tree) :
    (selection.meetAll range tree.preorder).best =
      selection.policy.choice? (selection.candidates tree range.first range.last) :=
  (selection.stands_meetAll range tree).eq_choice? fun _ candidate =>
    selection.size_eq_reach range.first_le_last candidate

/-- **A search through a tree answers with the unit of the candidate that the
policy asks for.** -/
theorem resolve_value (tree : Tree) :
    (selection.resolve tree range).value =
      (selection.policy.choice?
        (selection.candidates tree range.first range.last)).map Node.unit := by
  rw [← best_meetAll]
  simp only [resolve, Walker.drain_eq]
  rfl

/-- A search through a tree answers with nothing exactly when there is no
candidate. -/
theorem resolve_value_eq_none_iff (tree : Tree) :
    (selection.resolve tree range).value = none ↔
      selection.candidates tree range.first range.last = [] := by
  rw [resolve_value, Option.map_eq_none_iff, ← best_meetAll]
  exact (selection.stands_meetAll range tree).eq_none_iff

end Selection

/-! ## A lookup in a source text -/

/-- Two numbers name a range of lines unless the first is zero or exceeds the
last. -/
theorem LineRange.ofLines_cases (first last : UInt64) :
    ((first = 0 ∨ last < first) ∧ ofLines first last = .error (.invalidRange first last)) ∨
      (¬ (first = 0 ∨ last < first) ∧
        ∃ range, ofLines first last = .ok range ∧ range.first = first ∧ range.last = last) := by
  have positive : 1 ≤ first ↔ first ≠ 0 := by
    rw [UInt64.le_iff_toNat_le, ne_eq, ← UInt64.toNat_inj, UInt64.toNat_one, UInt64.toNat_zero]
    omega
  unfold ofLines
  by_cases zero : first = 0
  · exact .inl ⟨.inl zero, dif_neg fun above => positive.mp above zero⟩
  · rw [dif_pos (positive.mpr zero)]
    by_cases ordered : first ≤ last
    · exact .inr ⟨not_or.mpr ⟨zero, UInt64.not_lt.mpr ordered⟩, _, dif_pos ordered, rfl, rfl⟩
    · exact .inl ⟨.inr (UInt64.not_le.mp ordered), dif_neg ordered⟩

namespace Analyzer

/-- **A lookup answers with the first of the longest candidates, or the last of
the shortest.** For every grammar and every tree it gives, whatever its spans, a
lookup answers as `Analyzer.lookup` says. When the numbers name a range and the
text is parsed, the answer is nothing exactly if there is no candidate, and every
candidate has the size that its two ends say. -/
theorem find_value_eq_lookup (analyzer : Analyzer) (source : String) (first last : UInt64) :
    (analyzer.find source first last).value = analyzer.lookup source first last ∧
      ∀ tree, analyzer.grammar.parse source = .ok tree → first ≠ 0 → first ≤ last →
        ((analyzer.find source first last).value = .nothing ↔
            analyzer.selection.candidates tree first last = []) ∧
          ∀ node ∈ analyzer.selection.candidates tree first last,
            (node.span.size : Int) = node.span.last.toNat - node.span.first.toNat := by
  unfold find lookup
  rcases LineRange.ofLines_cases first last with ⟨unnamed, refused⟩ | ⟨named, range, read, ends⟩
  · rw [refused, if_pos unnamed]
    refine ⟨rfl, fun tree _ positive ordered => ?_⟩
    exact absurd unnamed (not_or.mpr ⟨positive, UInt64.not_lt.mpr ordered⟩)
  · obtain ⟨rfl, rfl⟩ := ends
    rw [read, if_neg named]
    cases parsed : analyzer.grammar.parse source with
    | error fault => exact ⟨rfl, fun tree impossible => by cases impossible⟩
    | ok tree =>
      refine ⟨congrArg Finding.mk (analyzer.selection.resolve_value range tree), ?_⟩
      intro other same _ ordered
      cases same
      refine ⟨?_, fun node candidate => analyzer.selection.size_eq_reach ordered candidate⟩
      rw [← analyzer.selection.resolve_value_eq_none_iff range tree]
      simp [Finding.nothing]

/-- A unit and the one inside it that has the same lines: the policies tell them
apart. -/
example :
    let inner : Node := ⟨"function_definition", ⟨0, 4⟩, ⟨3, 2⟩, false, []⟩
    let outer : Node := ⟨"class_definition", ⟨0, 0⟩, ⟨4, 0⟩, false, [inner]⟩
    let grammar : Grammar :=
      { language := "python", kinds := .standard, parse := fun _ => .ok (some outer) }
    ((Analyzer.mk grammar ⟨.standard, .outermost⟩).find "" 2 3).value =
        ⟨some ⟨"class_definition", ⟨⟨1⟩, ⟨4⟩⟩⟩⟩ ∧
      ((Analyzer.mk grammar ⟨.standard, .innermost⟩).find "" 2 3).value =
        ⟨some ⟨"function_definition", ⟨⟨1⟩, ⟨4⟩⟩⟩⟩ := by
  decide +kernel

end Analyzer

end Enclosure
