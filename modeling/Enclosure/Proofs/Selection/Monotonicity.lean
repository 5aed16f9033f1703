import Enclosure.Catalog
import Enclosure.Proofs.Selection.Widening
import Enclosure.Proofs.Settings.Kinds

/-!
# More kinds and fewer lines

A larger set of structural kinds and a smaller range of lines both make more nodes
candidates. A search that found something then still finds something, and its answer
moves only to the side to which the policy leans: the outermost answer does not shrink
and the innermost answer does not grow.

The reason is the same for both policies. Whatever the order in which candidates are
met, the node that a search leaves is at least as good as every candidate
(`Policy.Stands.favours`), and so as good as the old answer, which is a candidate still
(`Selection.exists_answer_favoured`). Where in the pre-order the new candidates turn up
does not matter.

Extra kinds in the settings of a language are a case of a larger set of kinds, so they
never take an answer away.
-/

set_option autoImplicit false

namespace Enclosure

/-- How many lines lie between the first and the last line of a unit. -/
def StructuralUnit.size (unit : StructuralUnit) : Nat :=
  unit.extent.last.line.toNat - unit.extent.first.line.toNat

namespace Policy

/-- A size is at least as good as another: not smaller when the outermost unit is wanted,
and not larger when the innermost one is. -/
def Favours : Policy → (size other : Nat) → Prop
  | outermost, size, other => other ≤ size
  | innermost, size, other => size ≤ other

variable {policy : Policy}

theorem favours_refl (size : Nat) : policy.Favours size size := by
  cases policy <;> exact Nat.le_refl size

theorem favours_of_prefers {candidate current : Nat}
    (replaces : policy.prefers candidate current = true) : policy.Favours candidate current := by
  cases policy <;> simp only [prefers, decide_eq_true_eq] at replaces <;>
    simp only [Favours] <;> omega

theorem favours_of_not_prefers {candidate current : Nat}
    (withstands : policy.prefers candidate current = false) :
    policy.Favours current candidate := by
  cases policy <;> simp only [prefers, decide_eq_false_iff_not] at withstands <;>
    simp only [Favours] <;> omega

/-- **The node left by a search is at least as good as every candidate.** -/
theorem Stands.favours {met : List Node} {best candidate : Node}
    (stands : policy.Stands met (some best)) (member : candidate ∈ met) :
    policy.Favours best.span.size candidate.span.size := by
  obtain ⟨before, after, rfl, replaces, withstands⟩ := stands.exists_split
  rcases List.mem_append.mp member with earlier | behind
  · exact favours_of_prefers (replaces candidate earlier)
  · rcases List.mem_cons.mp behind with itself | later
    · exact itself ▸ favours_refl _
    · exact favours_of_not_prefers (withstands candidate later)

end Policy

namespace Selection

variable {tree : Tree} {range : LineRange} {kinds : KindSet} {policy : Policy}

/-- Where there is a candidate, a search answers with a unit that is at least as good. -/
theorem exists_answer_favoured {selection : Selection} {candidate : Node}
    (member : candidate ∈ selection.candidates tree range.first range.last) :
    ∃ unit, (selection.resolve tree range).value = some unit ∧
      selection.policy.Favours unit.size candidate.span.size := by
  have stands := selection.stands_meetAll range tree
  cases left : (selection.meetAll range tree.preorder).best with
  | none =>
    rw [stands.eq_none_iff.mp left] at member
    cases member
  | some best =>
    rw [left] at stands
    exact ⟨best.unit, resolve_of_stands stands, stands.favours member⟩

/-- A candidate stays one when kinds are added and lines are taken away. -/
theorem mem_candidates_of_encloses {more : KindSet} {inside : LineRange} {candidate : Node}
    (added : ∀ kind, kinds.contains kind = true → more.contains kind = true)
    (encloses : range.Encloses inside)
    (member : candidate ∈ (Selection.mk kinds policy).candidates tree range.first range.last) :
    candidate ∈ (Selection.mk more policy).candidates tree inside.first inside.last := by
  obtain ⟨listed, structural, contains⟩ := mem_candidates.mp member
  exact mem_candidates.mpr
    ⟨listed, added _ structural, LineSpan.contains_of_encloses encloses contains⟩

/-- An answer does not get lost or worse when kinds are added and lines are taken away. -/
theorem resolve_of_more_kinds {more : KindSet} {inside : LineRange} {unit : StructuralUnit}
    (added : ∀ kind, kinds.contains kind = true → more.contains kind = true)
    (encloses : range.Encloses inside)
    (found : ((Selection.mk kinds policy).resolve tree range).value = some unit) :
    ∃ answer, ((Selection.mk more policy).resolve tree inside).value = some answer ∧
      policy.Favours answer.size unit.size := by
  obtain ⟨node, rfl, member, -⟩ := exists_stands_of_resolve found
  exact exists_answer_favoured (mem_candidates_of_encloses added encloses member)

/-- Whether there is an answer does not depend on the policy. -/
theorem resolve_eq_none_iff_of_policy (other : Policy) :
    ((Selection.mk kinds policy).resolve tree range).value = none ↔
      ((Selection.mk kinds other).resolve tree range).value = none := by
  rw [resolve_value_eq_none_iff, resolve_value_eq_none_iff]
  rfl

theorem size_innermost_le_size_outermost {outer inner : StructuralUnit}
    (outermost : ((Selection.mk kinds .outermost).resolve tree range).value = some outer)
    (innermost : ((Selection.mk kinds .innermost).resolve tree range).value = some inner) :
    inner.size ≤ outer.size := by
  obtain ⟨largest, rfl, -, stands⟩ := exists_stands_of_resolve outermost
  obtain ⟨smallest, rfl, member, -⟩ := exists_stands_of_resolve innermost
  exact stands.favours member

end Selection

namespace Analyzer

/-- A lookup finds a unit when the numbers name a range, the text is parsed and the
search through its tree finds the unit. -/
theorem find_eq_some_iff {analyzer : Analyzer} {source : String} {first last : UInt64}
    {unit : StructuralUnit} :
    (analyzer.find source first last).value = ⟨some unit⟩ ↔
      ∃ range tree, LineRange.ofLines first last = .ok range ∧
        analyzer.grammar.parse source = .ok tree ∧
        (analyzer.selection.resolve tree range).value = some unit := by
  unfold find
  cases LineRange.ofLines first last with
  | error fault => simp [Finding.nothing]
  | ok range =>
    cases analyzer.grammar.parse source with
    | error fault => simp [Finding.nothing]
    | ok tree => simp

end Analyzer

/-- A lookup in a language under settings with extra kinds finds what is found without
them, or something better. -/
theorem Parsers.find_of_extraKinds {parsers : Parsers} {settings : Settings} {name : String}
    {extra : List String} {language : Language} {source : String} {first last : UInt64}
    {unit : StructuralUnit}
    (free : language.answersTo name = true →
      name ∈ settings.languages.names ∨ settings.overrideFor language = none)
    (found : ((parsers.analyzer settings language).find source first last).value = ⟨some unit⟩) :
    ∃ answer,
      ((parsers.analyzer (settings.withExtraKinds name extra) language).find source first
        last).value = ⟨some answer⟩ ∧
      settings.policy.Favours answer.size unit.size := by
  obtain ⟨range, tree, read, parsed, resolved⟩ := Analyzer.find_eq_some_iff.mp found
  have added : ∀ kind, (settings.selectionFor language).kinds.contains kind = true →
      ((settings.withExtraKinds name extra).selectionFor language).kinds.contains kind = true := by
    intro kind structural
    rw [KindSet.contains_iff_mem] at structural ⊢
    exact Settings.mem_selectionFor_withExtraKinds free structural
  obtain ⟨answer, answered, favoured⟩ :=
    Selection.resolve_of_more_kinds added range.encloses_refl resolved
  exact ⟨answer, Analyzer.find_eq_some_iff.mpr ⟨range, tree, read, parsed, answered⟩, favoured⟩

/-- **More kinds and fewer lines never lose an answer, and improve it if anything.**

* When a search finds a unit, every search with more kinds and a range inside finds one
  under the same policy, not smaller for the outermost policy and not larger for the
  innermost.
* With the same kinds and range, the policies agree on whether there is an answer, and
  the innermost answer is not larger than the outermost.
* Extra kinds in the settings, under a name in the table or for a language without an
  override, take no answer of a lookup away, in any language, and do not make the
  outermost answer smaller or the innermost larger. -/
theorem Selection.resolve_of_more_kinds_and_fewer_lines :
    (∀ (policy : Policy) (kinds more : KindSet) (tree : Tree) (range inside : LineRange)
      (unit : StructuralUnit),
      (∀ kind, kinds.contains kind = true → more.contains kind = true) →
      range.Encloses inside →
      ((Selection.mk kinds policy).resolve tree range).value = some unit →
      ∃ answer, ((Selection.mk more policy).resolve tree inside).value = some answer ∧
        policy.Favours answer.size unit.size) ∧
    (∀ (kinds : KindSet) (tree : Tree) (range : LineRange),
      (((Selection.mk kinds .outermost).resolve tree range).value = none ↔
        ((Selection.mk kinds .innermost).resolve tree range).value = none) ∧
      ∀ outer inner, ((Selection.mk kinds .outermost).resolve tree range).value = some outer →
        ((Selection.mk kinds .innermost).resolve tree range).value = some inner →
        inner.size ≤ outer.size) ∧
    ∀ (parsers : Parsers) (settings : Settings) (name : String) (extra : List String)
      (language : Language) (source : String) (first last : UInt64) (unit : StructuralUnit),
      (language.answersTo name = true →
        name ∈ settings.languages.names ∨ settings.overrideFor language = none) →
      ((parsers.analyzer settings language).find source first last).value = ⟨some unit⟩ →
      ∃ answer,
        ((parsers.analyzer (settings.withExtraKinds name extra) language).find source first
          last).value = ⟨some answer⟩ ∧
        settings.policy.Favours answer.size unit.size := by
  refine ⟨?_, ?_, ?_⟩
  · intro policy kinds more tree range inside unit added encloses found
    exact resolve_of_more_kinds added encloses found
  · intro kinds tree range
    refine ⟨resolve_eq_none_iff_of_policy .innermost, fun outer inner => ?_⟩
    exact size_innermost_le_size_outermost
  · intro parsers settings name extra language source first last unit free found
    exact Parsers.find_of_extraKinds free found

/-- A function on lines 2 to 5 whose decoration begins on line 1. Asked for line 3 instead
of lines 3 to 4, and with decorations among the kinds, the innermost policy has an answer
that is not larger; and extra kinds under `py` leave the outermost policy one that is not
smaller. -/
theorem Selection.resolve_of_decorated_function :
    let function : Node := ⟨"function_definition", ⟨1, 0⟩, ⟨5, 0⟩, false, []⟩
    let decorated : Node := ⟨"decorated_definition", ⟨0, 0⟩, ⟨5, 0⟩, false, [function]⟩
    let tree : Tree := some ⟨"module", ⟨0, 0⟩, ⟨6, 0⟩, false, [decorated]⟩
    let parsers : Parsers := fun _ _ => .ok tree
    let lines : LineRange := ⟨3, 4, by decide, by decide⟩
    let line : LineRange := ⟨3, 3, by decide, by decide⟩
    let more : KindSet := .ofList ["function_definition", "decorated_definition"]
    let settings : Settings := {}
    (((Selection.mk (.ofList ["function_definition"]) .innermost).resolve tree lines).value =
        some function.unit ∧
      ∃ answer, ((Selection.mk more .innermost).resolve tree line).value = some answer ∧
        answer.size ≤ function.unit.size) ∧
    ((parsers.analyzer settings .python).find "" 3 4).value = ⟨some function.unit⟩ ∧
      ∃ answer,
        ((parsers.analyzer (settings.withExtraKinds "py" ["decorated_definition"]) .python).find
          "" 3 4).value = ⟨some answer⟩ ∧
        function.unit.size ≤ answer.size := by
  intro function decorated tree parsers lines line more settings
  have found : ((Selection.mk (.ofList ["function_definition"]) .innermost).resolve tree
      lines).value = some function.unit := by decide +kernel
  have added : ∀ kind, (KindSet.ofList ["function_definition"]).contains kind = true →
      more.contains kind = true := by
    intro kind structural
    rw [KindSet.contains_iff_mem, KindSet.mem_ofList, List.mem_singleton] at structural
    rw [structural]
    decide +kernel
  have looked : ((parsers.analyzer settings .python).find "" 3 4).value =
      ⟨some function.unit⟩ := by decide +kernel
  refine ⟨⟨found, ?_⟩, looked, ?_⟩
  · exact resolve_of_more_kinds_and_fewer_lines.1 .innermost _ more tree lines line _ added
      (by decide) found
  · exact resolve_of_more_kinds_and_fewer_lines.2.2 parsers settings "py"
      ["decorated_definition"] .python "" 3 4 _ (fun _ => .inr rfl) looked

end Enclosure
