import Enclosure.Proofs.Selection.Extremes

/-!
# What the log of a lookup says

A search through a tree logs every candidate that it selects, and later candidates may
replace earlier ones. So the log shows a part of the sequence of candidates, and this
module says which: the candidates that outdo every candidate before them
(`Policy.milestones`). Under the outermost policy these are the candidates that are
longer than all before them, and under the innermost policy those that are not longer
than any before them. The last of them is the answer.

The search itself compares a candidate with one other only, the node it has kept. That
is enough because the node kept would replace every candidate before it and withstands
every candidate after it (`Policy.Stands.outdoes_iff`). One step of a search therefore
keeps three things together: which node is left, which records were made, and that the
last of the records is about the node left (`Selection.Explains`).
-/

set_option autoImplicit false

namespace Enclosure

/-- The log line about a selected unit. -/
def StructuralUnit.selectedLine (unit : StructuralUnit) (policy : Policy) : LogRecord where
  level := .debug
  component := .resolver
  message :=
    "Candidate " ++ unit.kind ++ " at lines " ++ toString unit.extent.first.line ++ "-" ++
      toString unit.extent.last.line ++ " selected (" ++ policy.name ++ " policy)"

/-! ## The candidates that outdo all before them -/

namespace Policy

/-- A candidate outdoes an earlier one: it is longer, when the outermost unit is wanted,
and it is not longer, when the innermost one is. -/
def Outdoes : Policy → (candidate earlier : Node) → Prop
  | outermost, candidate, earlier => earlier.span.size < candidate.span.size
  | innermost, candidate, earlier => candidate.span.size ≤ earlier.span.size

instance (policy : Policy) (candidate earlier : Node) :
    Decidable (policy.Outdoes candidate earlier) :=
  match policy with
  | outermost => inferInstanceAs (Decidable (earlier.span.size < candidate.span.size))
  | innermost => inferInstanceAs (Decidable (candidate.span.size ≤ earlier.span.size))

/-- **The candidates that outdo every candidate before them**, in their order. -/
def milestones (policy : Policy) (candidates : List Node) : List Node :=
  (candidates.zipIdx.filter fun place : Node × Nat =>
    ∀ earlier ∈ candidates.take place.2, policy.Outdoes place.1 earlier).map (·.1)

variable {policy : Policy}

theorem prefers_eq_true_iff {candidate earlier : Node} :
    policy.prefers candidate.span.size earlier.span.size = true ↔
      policy.Outdoes candidate earlier := by
  cases policy <;> simp only [prefers, Outdoes, decide_eq_true_eq]

/-- A further candidate is a milestone when it outdoes all others, and takes no milestone
away. -/
theorem milestones_concat (candidates : List Node) (candidate : Node) :
    policy.milestones (candidates ++ [candidate]) =
      policy.milestones candidates ++
        if ∀ earlier ∈ candidates, policy.Outdoes candidate earlier then [candidate] else [] := by
  have old : candidates.zipIdx.filter (fun place : Node × Nat =>
        ∀ earlier ∈ (candidates ++ [candidate]).take place.2, policy.Outdoes place.1 earlier) =
      candidates.zipIdx.filter (fun place : Node × Nat =>
        ∀ earlier ∈ candidates.take place.2, policy.Outdoes place.1 earlier) := by
    refine List.filter_congr fun place member => ?_
    have inside : place.2 ≤ candidates.length :=
      Nat.le_of_lt (List.snd_lt_of_mem_zipIdx member)
    rw [List.take_append_of_le_length inside]
  rw [milestones, List.zipIdx_append, List.filter_append, old, List.map_append, milestones]
  congr 1
  simp only [Nat.zero_add, List.zipIdx_singleton, List.filter_cons, List.filter_nil, List.take_left,
    decide_eq_true_eq]
  split <;> rfl

/-- **Whoever outdoes the node left by a search outdoes every candidate met.** -/
theorem Stands.outdoes_iff {met : List Node} {current : Node}
    (stands : policy.Stands met (some current)) {candidate : Node} :
    policy.Outdoes candidate current ↔ ∀ earlier ∈ met, policy.Outdoes candidate earlier := by
  cases stands with
  | node before after _ replaces withstands =>
    simp only [← prefers_eq_true_iff]
    constructor
    · intro top earlier member
      rcases List.mem_append.mp member with ahead | behind
      · exact prefers_of_prefers_of_prefers top (replaces earlier ahead)
      · rcases List.mem_cons.mp behind with same | later
        · exact same ▸ top
        · exact prefers_of_not_prefers top (withstands earlier later)
    · intro all
      exact all current (by simp)

end Policy

/-! ## A search and its records -/

namespace Selection

variable (selection : Selection) (range : LineRange)

/-- The record of a selected candidate is about its unit. -/
theorem selectedRecord_eq (node : Node) :
    selection.selectedRecord node = node.unit.selectedLine selection.policy := by
  have joint : " selected (" = " selected" ++ " (" := by decide +kernel
  unfold selectedRecord StructuralUnit.selectedLine
  rw [joint]
  simp only [String.append_assoc]
  rfl

/-- The records of a search are about the milestones among the candidates met, and the
last of these is the node left. -/
structure Explains (met : List Node) (progress : Progress) : Prop where
  stands : selection.policy.Stands met progress.best
  logged : progress.log =
    (selection.policy.milestones met).map fun node => node.unit.selectedLine selection.policy
  last : (selection.policy.milestones met).getLast? = progress.best

variable {selection range}

/-- A node replaces the one left so far when it outdoes every candidate met. -/
theorem Explains.replaces_iff {met : List Node} {progress : Progress}
    (explains : selection.Explains met progress) (node : Node) :
    selection.replaces node progress.best = true ↔
      ∀ earlier ∈ met, selection.policy.Outdoes node earlier := by
  have stands := explains.stands
  cases best : progress.best with
  | none =>
    rw [best] at stands
    simp [replaces, stands.eq_none_iff.mp rfl]
  | some current =>
    rw [best] at stands
    rw [replaces, Policy.prefers_eq_true_iff, stands.outdoes_iff]

/-- One step of a search. -/
theorem Explains.meet {met : List Node} {progress : Progress}
    (explains : selection.Explains met progress) (node : Node) :
    selection.Explains (met ++ [node].filter (selection.isCandidate range))
      (selection.meet range progress node) := by
  have stands := selection.stands_meet range explains.stands node
  by_cases candidate : selection.isCandidate range node = true
  · rw [List.filter_cons_of_pos candidate, List.filter_nil] at stands ⊢
    by_cases outdoes : ∀ earlier ∈ met, selection.policy.Outdoes node earlier
    · have replaces := (explains.replaces_iff node).mpr outdoes
      rw [Selection.meet, candidate, replaces, Bool.and_self, if_pos rfl] at stands ⊢
      refine ⟨stands, ?_, ?_⟩
      · rw [Policy.milestones_concat, if_pos outdoes, List.map_append, ← explains.logged,
          selectedRecord_eq]
        rfl
      · rw [Policy.milestones_concat, if_pos outdoes, List.getLast?_concat]
    · have stays : selection.replaces node progress.best = false :=
        Bool.eq_false_iff.mpr (mt (explains.replaces_iff node).mp outdoes)
      rw [Selection.meet, candidate, stays, Bool.and_false, if_neg Bool.false_ne_true] at stands ⊢
      refine ⟨stands, ?_, ?_⟩
      · rw [Policy.milestones_concat, if_neg outdoes, List.append_nil, explains.logged]
      · rw [Policy.milestones_concat, if_neg outdoes, List.append_nil, explains.last]
  · have passedOver : selection.meet range progress node = progress := by
      rw [Selection.meet, Bool.eq_false_iff.mpr candidate, Bool.false_and,
        if_neg Bool.false_ne_true]
    rw [List.filter_cons_of_neg candidate, List.filter_nil, List.append_nil, passedOver]
    exact explains

/-- A whole search, started after some candidates were met. -/
theorem Explains.foldl_meet {met : List Node} {progress : Progress}
    (explains : selection.Explains met progress) (nodes : List Node) :
    selection.Explains (met ++ nodes.filter (selection.isCandidate range))
      (nodes.foldl (selection.meet range) progress) := by
  induction nodes generalizing met progress with
  | nil => simpa using explains
  | cons node rest ih =>
    have split : (node :: rest).filter (selection.isCandidate range) =
        [node].filter (selection.isCandidate range) ++
          rest.filter (selection.isCandidate range) := by
      rw [← List.filter_append, List.singleton_append]
    rw [split, ← List.append_assoc, List.foldl_cons]
    exact ih (explains.meet node)

variable (selection range)

/-- **The records of a search through a tree are explained by its candidates.** -/
theorem explains_meetAll (tree : Tree) :
    selection.Explains (selection.candidates tree range.first range.last)
      (selection.meetAll range tree.preorder) := by
  have started : selection.Explains [] {} := ⟨.nothing, rfl, rfl⟩
  rw [← filter_isCandidate_preorder]
  exact started.foldl_meet tree.preorder

/-- The records of a search through a tree are about the milestones among its candidates. -/
theorem resolve_log (tree : Tree) :
    (selection.resolve tree range).log =
      (selection.policy.milestones (selection.candidates tree range.first range.last)).map
        fun node => node.unit.selectedLine selection.policy := by
  simp only [resolve, Walker.drain_eq]
  exact (selection.explains_meetAll range tree).logged

/-- The answer of a search through a tree is the last milestone among its candidates. -/
theorem resolve_value_eq_getLast? (tree : Tree) :
    (selection.resolve tree range).value =
      (selection.policy.milestones
        (selection.candidates tree range.first range.last)).getLast?.map Node.unit := by
  rw [(selection.explains_meetAll range tree).last]
  simp only [resolve, Walker.drain_eq]
  rfl

/-- A search that finds something logs it last. -/
theorem getLast?_resolve_log {tree : Tree} {unit : StructuralUnit}
    (found : (selection.resolve tree range).value = some unit) :
    (selection.resolve tree range).log.getLast? = some (unit.selectedLine selection.policy) := by
  rw [resolve_value_eq_getLast?, Option.map_eq_some_iff] at found
  obtain ⟨node, last, rfl⟩ := found
  rw [resolve_log, List.getLast?_map, last, Option.map_some]

end Selection

namespace Analyzer

variable {analyzer : Analyzer} {source : String}

/-- A lookup in a text that is parsed is a search through its tree, and its log ends with
a record of its own when nothing is found. -/
theorem find_of_parse {range : LineRange} {tree : Tree}
    (read : LineRange.ofLines range.first range.last = .ok range)
    (parsed : analyzer.grammar.parse source = .ok tree) :
    (analyzer.find source range.first range.last).value =
        ⟨(analyzer.selection.resolve tree range).value⟩ ∧
      (analyzer.find source range.first range.last).log =
        (analyzer.selection.resolve tree range).log ++
          if analyzer.selection.candidates tree range.first range.last = [] then
            [nothingRecord analyzer.grammar.language range]
          else [] := by
  simp only [find, read, parsed, ← analyzer.selection.resolve_value_eq_none_iff range tree]
  cases (analyzer.selection.resolve tree range).value <;> simp

theorem dryRun_log (analyzer : Analyzer) (source : String) :
    (analyzer.dryRun source).log = [] := by
  unfold dryRun
  cases analyzer.grammar.parse source <;> rfl

theorem syntaxErrors_log (analyzer : Analyzer) (source : String) :
    (analyzer.syntaxErrors source).log = [] := by
  unfold syntaxErrors inspect
  cases analyzer.grammar.parse source <;> rfl

/-- **The log of a lookup explains its result.** For every analyzer, source text and pair
of numbers:

* numbers that name no range of lines are logged by one warning, whatever the parser
  would say;
* a text that cannot be parsed is logged by one warning with the fault of the parser;
* otherwise the log tells of exactly those candidates that outdo every candidate before
  them, in pre-order, and the last of them has the kind and the lines of the answer;
  when there is no candidate, which is when the answer is nothing, the log says so.

A dry run and the list of syntax errors log nothing. -/
theorem find_log_explains_value (analyzer : Analyzer) (source : String) (first last : UInt64) :
    let found := analyzer.find source first last
    let policy := analyzer.selection.policy
    (first = 0 ∨ last < first →
      found.log = [⟨.warn, .analyzer,
        "Skipping enclosing context lookup: " ++ (Fault.invalidRange first last).message⟩]) ∧
    (∀ fault, ¬ (first = 0 ∨ last < first) → analyzer.grammar.parse source = .error fault →
      found.log = [⟨.warn, .analyzer,
        "Error parsing " ++ analyzer.grammar.language ++ " source: " ++ fault.message⟩]) ∧
    (∀ tree, ¬ (first = 0 ∨ last < first) → analyzer.grammar.parse source = .ok tree →
      let candidates := analyzer.selection.candidates tree first last
      found.log =
          ((policy.milestones candidates).map fun node => node.unit.selectedLine policy) ++
            (if candidates = [] then
              [⟨.debug, .analyzer,
                "No enclosing context for lines " ++ toString first ++ "-" ++ toString last ++
                  " in " ++ analyzer.grammar.language ++ " source"⟩]
            else []) ∧
        (∀ unit, found.value = ⟨some unit⟩ →
          found.log.getLast? = some (unit.selectedLine policy)) ∧
        (found.value = .nothing ↔ candidates = [])) ∧
    (analyzer.dryRun source).log = [] ∧ (analyzer.syntaxErrors source).log = [] := by
  intro found policy
  rcases LineRange.ofLines_cases first last with ⟨unnamed, refused⟩ | ⟨named, range, read, ends⟩
  · have skipped : found.log = [skippedRecord (.invalidRange first last)] := by
      simp only [found, find, refused]
    refine ⟨fun _ => skipped, ?_, ?_, analyzer.dryRun_log source, analyzer.syntaxErrors_log source⟩
    · exact fun _ named => absurd unnamed named
    · exact fun _ named => absurd unnamed named
  · obtain ⟨rfl, rfl⟩ := ends
    refine ⟨fun unnamed => absurd unnamed named, ?_, ?_, analyzer.dryRun_log source,
      analyzer.syntaxErrors_log source⟩
    · intro fault _ refused
      simp only [found, find, read, refused]
      rfl
    · intro tree _ parsed candidates
      obtain ⟨value, log⟩ := find_of_parse read parsed
      have nothing : found.value = .nothing ↔ candidates = [] := by
        rw [← analyzer.selection.resolve_value_eq_none_iff range tree, value]
        simp [Finding.nothing]
      refine ⟨?_, ?_, nothing⟩
      · rw [log, analyzer.selection.resolve_log]
        rfl
      · intro unit answer
        have some : (analyzer.selection.resolve tree range).value = some unit :=
          congrArg Finding.unit (value.symm.trans answer)
        have candidate : candidates ≠ [] := by
          intro none
          have unanswered := answer.symm.trans (nothing.mpr none)
          cases unanswered
        rw [log, if_neg candidate, List.append_nil]
        exact analyzer.selection.getLast?_resolve_log range some

/-- A class on lines 1 to 6, a method in it on lines 2 to 5 and a second one on lines 2 to
4. For line 3 the innermost policy tells of all three, and the outermost of the class. For
lines that are no range there is one warning although the parser fails. -/
theorem find_log_explains_value_of_class_with_methods :
    let short : Node := ⟨"function_definition", ⟨1, 4⟩, ⟨3, 9⟩, false, []⟩
    let long : Node := ⟨"function_definition", ⟨1, 4⟩, ⟨4, 9⟩, false, []⟩
    let whole : Node := ⟨"class_definition", ⟨0, 0⟩, ⟨6, 0⟩, false, [long, short]⟩
    let grammar : Grammar :=
      { language := "python", kinds := .standard, parse := fun _ => .ok (some whole) }
    let faulty : Grammar := { grammar with parse := fun _ => .error (.parse "python" "no tree") }
    ((Analyzer.mk grammar ⟨.standard, .innermost⟩).find "" 3 3).log =
        [whole.unit.selectedLine .innermost, long.unit.selectedLine .innermost,
          short.unit.selectedLine .innermost] ∧
      ((Analyzer.mk grammar ⟨.standard, .outermost⟩).find "" 3 3).log =
        [whole.unit.selectedLine .outermost] ∧
      ((Analyzer.mk faulty ⟨.standard, .outermost⟩).find "" 3 2).log =
        [⟨.warn, .analyzer, "Skipping enclosing context lookup: " ++
          (Fault.invalidRange 3 2).message⟩] ∧
      ((Analyzer.mk faulty ⟨.standard, .outermost⟩).find "" 3 3).log =
        [⟨.warn, .analyzer, "Error parsing python source: " ++
          (Fault.parse "python" "no tree").message⟩] := by
  intro short long whole grammar faulty
  have innermost := find_log_explains_value ⟨grammar, ⟨.standard, .innermost⟩⟩ "" 3 3
  have outermost := find_log_explains_value ⟨grammar, ⟨.standard, .outermost⟩⟩ "" 3 3
  have reversed := find_log_explains_value ⟨faulty, ⟨.standard, .outermost⟩⟩ "" 3 2
  have broken := find_log_explains_value ⟨faulty, ⟨.standard, .outermost⟩⟩ "" 3 3
  refine ⟨?_, ?_, ?_, ?_⟩
  · rw [(innermost.2.2.1 (some whole) (by decide) rfl).1]
    decide +kernel
  · rw [(outermost.2.2.1 (some whole) (by decide) rfl).1]
    decide +kernel
  · exact reversed.1 (by decide)
  · rw [broken.2.1 (.parse "python" "no tree") (by decide) rfl]
    decide +kernel

end Analyzer

end Enclosure
