import Enclosure.Proofs.Language.Naming
import Enclosure.Proofs.Settings.Repetition
import Enclosure.Proofs.Text.ByteOrder

/-!
# The name that a refusal is about, and the override that a language gets

Validation goes through the names of a table in ascending order and stops at the
first that is at fault: it calls no language, or a language that a name before it
calls as well (`Settings.AtFault`). So a refusal is about the least name at fault,
and the other name that it quotes is the only one before it that calls the language
(`Settings.complaint_of_validate`).

When nothing is at fault, names and languages match: every entry is the one that is
found for exactly one language, and a language gets the entry under the only name
that calls it (`Settings.entryFor?_eq_some_iff`). Validation asks which language a
name calls first and the search for an override asks one language whether it
answers; that the two agree is `Language.named?_eq_some_iff`.
-/

set_option autoImplicit false

namespace Enclosure.Settings

/-! ## Refusals -/

/-- A name is at fault among others: it calls no language, or a language that a name
before it calls as well. -/
def AtFault (names : List String) (name : String) : Prop :=
  (∀ language : Language, language.answersTo name = false) ∨
    ∃ language : Language, language.answersTo name = true ∧
      ∃ earlier ∈ names, Text.Before earlier name ∧ language.answersTo earlier = true

/-- The first name at fault in the order of the bytes. -/
structure LeastAtFault (names : List String) (name : String) : Prop where
  listed : name ∈ names
  atFault : AtFault names name
  least : ∀ other ∈ names, Text.Before other name → ¬ AtFault names other

/-- What there is to complain about a name: that it calls no language, or that the
only name before it that calls its language does so already. -/
inductive Complaint (names : List String) (name : String) : SettingsProblem → Prop where
  | unknown (silent : ∀ language : Language, language.answersTo name = false) :
      Complaint names name (.unknownLanguage name)
  | twice (language : Language) (earlier : String) (calls : language.answersTo name = true)
      (only : ∀ other, other ∈ names ∧ Text.Before other name ∧ language.answersTo other = true ↔
        other = earlier) :
      Complaint names name (.configuredTwice language.name earlier name)

/-- A refusal stops at a name behind names that are accepted. -/
theorem checkNames_eq_error {seen : List (Language × String)} {names : List String}
    {problem : SettingsProblem} (refused : checkNames seen names = .error problem) :
    ∃ before name after, names = before ++ name :: after ∧ checkNames seen before = .ok () ∧
      ((Language.named? name = none ∧ problem = .unknownLanguage name) ∨
        ∃ language earlier, Language.named? name = some language ∧
          (seen.lookup language = some earlier ∨
            earlier ∈ before ∧ Language.named? earlier = some language) ∧
          problem = .configuredTwice language.name earlier name) := by
  induction names generalizing seen with
  | nil => cases refused
  | cons name rest ih =>
    rw [checkNames] at refused
    cases called : Language.named? name with
    | none =>
      simp only [called] at refused
      cases refused
      exact ⟨[], name, rest, rfl, rfl, .inl ⟨called, rfl⟩⟩
    | some language =>
      simp only [called] at refused
      cases remembered : seen.lookup language with
      | some earlier =>
        simp only [remembered] at refused
        cases refused
        exact ⟨[], name, rest, rfl, rfl, .inr ⟨language, earlier, called, .inl remembered, rfl⟩⟩
      | none =>
        simp only [remembered] at refused
        obtain ⟨before, blamed, after, split, accepted, complaint⟩ := ih refused
        refine ⟨name :: before, blamed, after, by rw [split, List.cons_append], ?_, ?_⟩
        · simp only [checkNames, called, remembered, accepted]
        · refine complaint.imp id ?_
          rintro ⟨other, earlier, calledToo, found, same⟩
          refine ⟨other, earlier, calledToo, ?_, same⟩
          rw [lookup_cons_eq_ite] at found
          rcases found with found | ⟨listed, calls⟩
          · split_ifs at found with equal
            · cases found
              exact .inr ⟨List.mem_cons_self, equal ▸ called⟩
            · exact .inl found
          · exact .inr ⟨List.mem_cons_of_mem _ listed, calls⟩

variable {settings : Settings}

theorem pairwise_names (table : OverrideTable) : table.names.Pairwise (· < ·) := by
  rw [OverrideTable.names, List.pairwise_map]
  exact table.ordered

/-- Of ascending names, those before a name are those that stand in front of it. -/
theorem mem_and_before_iff {before after : List String} {name other : String}
    (ascending : (before ++ name :: after).Pairwise (· < ·)) :
    other ∈ before ++ name :: after ∧ Text.Before other name ↔ other ∈ before := by
  obtain ⟨-, behind, ahead⟩ := List.pairwise_append.mp ascending
  have above : ∀ later ∈ after, name < later := (List.pairwise_cons.mp behind).1
  rw [Text.before_iff_lt, List.mem_append, List.mem_cons]
  constructor
  · rintro ⟨inFront | same | later, less⟩
    · exact inFront
    · rw [same] at less
      exact absurd less (String.lt_irrefl name)
    · exact absurd (String.lt_trans less (above other later)) (String.lt_irrefl other)
  · intro inFront
    exact ⟨.inl inFront, ahead other inFront name List.mem_cons_self⟩

/-- Accepted names of one language are one name. -/
theorem eq_of_answersTo_of_checkNames {seen : List (Language × String)} {names : List String}
    (accepted : checkNames seen names = .ok ()) {first second : String}
    (firstListed : first ∈ names) (secondListed : second ∈ names) {language : Language}
    (calls : language.answersTo first = true)
    (callsToo : language.answersTo second = true) : first = second := by
  refine injective_of_checkNames accepted first firstListed second secondListed ?_
  rw [Language.named?_eq_some_iff.mpr calls, Language.named?_eq_some_iff.mpr callsToo]

/-- In front of a name, where all names are accepted, none is at fault. -/
theorem not_atFault_of_before {before after : List String} {name other : String}
    (ascending : (before ++ name :: after).Pairwise (· < ·))
    (accepted : checkNames [] before = .ok ()) (listed : other ∈ before ++ name :: after)
    (less : Text.Before other name) : ¬ AtFault (before ++ name :: after) other := by
  have inFront := (mem_and_before_iff ascending).mp ⟨listed, less⟩
  rintro (silent | ⟨language, calls, earlier, earlierListed, smaller, callsToo⟩)
  · obtain ⟨language, called, -⟩ := ((checkNames_eq_ok_iff [] before).mp accepted).1 other inFront
    have calls := Language.named?_eq_some_iff.mp called
    rw [silent language] at calls
    cases calls
  · rw [Text.before_iff_lt] at smaller less
    have earlierLess : Text.Before earlier name :=
      Text.before_iff_lt.mpr (String.lt_trans smaller less)
    have earlierInFront := (mem_and_before_iff ascending).mp ⟨earlierListed, earlierLess⟩
    have same := eq_of_answersTo_of_checkNames accepted earlierInFront inFront callsToo calls
    rw [same] at smaller
    exact String.lt_irrefl other smaller

/-- **A refusal is about the least name at fault.** -/
theorem complaint_of_validate {problem : SettingsProblem}
    (refused : settings.validate = .error problem) :
    ∃ name, LeastAtFault settings.languages.names name ∧
      Complaint settings.languages.names name problem := by
  have ascending := pairwise_names settings.languages
  obtain ⟨before, name, after, split, accepted, complaint⟩ := checkNames_eq_error refused
  rw [split] at ascending ⊢
  have listed : name ∈ before ++ name :: after := by simp
  have least : ∀ other ∈ before ++ name :: after, Text.Before other name →
      ¬ AtFault (before ++ name :: after) other :=
    fun _ => not_atFault_of_before ascending accepted
  refine ⟨name, ?_⟩
  rcases complaint with ⟨uncalled, same⟩ | ⟨language, earlier, called, seen, same⟩
  · have silent := Language.named?_eq_none_iff.mp uncalled
    rw [same]
    exact ⟨⟨listed, .inl silent, least⟩, .unknown silent⟩
  · have calls := Language.named?_eq_some_iff.mp called
    obtain ⟨inFront, callsToo⟩ : earlier ∈ before ∧ language.answersTo earlier = true := by
      rcases seen with never | ⟨inFront, called⟩
      · cases never
      · exact ⟨inFront, Language.named?_eq_some_iff.mp called⟩
    obtain ⟨earlierListed, less⟩ := (mem_and_before_iff ascending).mpr inFront
    rw [same]
    refine ⟨⟨listed, .inr ⟨language, calls, earlier, earlierListed, less, callsToo⟩, least⟩,
      .twice language earlier calls fun other => ⟨?_, ?_⟩⟩
    · rintro ⟨otherListed, otherLess, otherCalls⟩
      have otherInFront := (mem_and_before_iff ascending).mp ⟨otherListed, otherLess⟩
      exact eq_of_answersTo_of_checkNames accepted otherInFront inFront otherCalls callsToo
    · rintro rfl
      exact ⟨earlierListed, less, callsToo⟩

/-- Settings are valid exactly when every name calls a language and no two names
call the same one. -/
theorem validate_eq_ok_iff_answersTo :
    settings.validate = .ok () ↔
      (∀ name ∈ settings.languages.names, ∃ language : Language,
        language.answersTo name = true) ∧
      ∀ first ∈ settings.languages.names, ∀ second ∈ settings.languages.names, first ≠ second →
        ∀ language : Language,
          ¬ (language.answersTo first = true ∧ language.answersTo second = true) := by
  simp only [validate_eq_ok_iff, Option.isSome_iff_exists, Language.named?_eq_some_iff]
  refine and_congr_right fun known => ⟨?_, ?_⟩
  · intro injective first firstListed second secondListed different language ⟨calls, callsToo⟩
    refine different (injective first firstListed second secondListed ?_)
    rw [Language.named?_eq_some_iff.mpr calls, Language.named?_eq_some_iff.mpr callsToo]
  · intro apart first firstListed second secondListed same
    by_contra different
    obtain ⟨language, calls⟩ := known first firstListed
    have callsToo : language.answersTo second = true := by
      rw [← Language.named?_eq_some_iff, ← same]
      exact Language.named?_eq_some_iff.mpr calls
    exact apart first firstListed second secondListed different language ⟨calls, callsToo⟩

/-! ## Overrides -/

/-- The entry that the override for a language is taken from. -/
def entryFor? (settings : Settings) (language : Language) : Option (String × Override) :=
  settings.languages.entries.find? fun entry => language.answersTo entry.1

theorem overrideFor_eq (language : Language) :
    settings.overrideFor language = (settings.entryFor? language).map (·.2) := rfl

/-- In valid settings, what is found for a language is any entry under a name that
calls it. -/
theorem entryFor?_eq_some_iff (valid : settings.validate = .ok ()) {language : Language}
    {entry : String × Override} :
    settings.entryFor? language = some entry ↔
      entry ∈ settings.languages.entries ∧ language.answersTo entry.1 = true := by
  constructor
  · intro found
    have answers := List.find?_some found
    exact ⟨List.mem_of_find?_eq_some found, answers⟩
  · rintro ⟨member, calls⟩
    cases found : settings.entryFor? language with
    | none => exact absurd calls (List.find?_eq_none.mp found entry member)
    | some first =>
      have firstMember := List.mem_of_find?_eq_some found
      have firstCalls := List.find?_some found
      have sameName : first.1 = entry.1 :=
        eq_of_answersTo_of_checkNames valid (List.mem_map_of_mem firstMember)
          (List.mem_map_of_mem member) firstCalls calls
      have firstFound := OverrideTable.mem_entries_iff_lookup.mp firstMember
      rw [sameName, OverrideTable.mem_entries_iff_lookup.mp member] at firstFound
      rw [Prod.ext sameName (Option.some.inj firstFound).symm]

theorem existsUnique_entryFor? (valid : settings.validate = .ok ()) {entry : String × Override}
    (member : entry ∈ settings.languages.entries) :
    ∃! language, settings.entryFor? language = some entry := by
  obtain ⟨language, calls⟩ :=
    (validate_eq_ok_iff_answersTo.mp valid).1 entry.1 (List.mem_map_of_mem member)
  refine ⟨language, (entryFor?_eq_some_iff valid).mpr ⟨member, calls⟩, ?_⟩
  intro other found
  exact Language.eq_of_answersTo ((entryFor?_eq_some_iff valid).mp found).2 calls

/-- In valid settings a language gets the override under the only name that calls
it, or none when no name does. -/
theorem overrideFor_cases (valid : settings.validate = .ok ()) (language : Language) :
    (∃ name override, (name, override) ∈ settings.languages.entries ∧
        (∀ other ∈ settings.languages.names, language.answersTo other = true ↔ other = name) ∧
        settings.overrideFor language = some override) ∨
      (∀ other ∈ settings.languages.names, language.answersTo other = false) ∧
        settings.overrideFor language = none := by
  rw [overrideFor_eq]
  cases found : settings.entryFor? language with
  | none =>
    refine .inr ⟨?_, rfl⟩
    intro other listed
    obtain ⟨entry, member, rfl⟩ := List.mem_map.mp listed
    exact Bool.eq_false_iff.mpr (List.find?_eq_none.mp found entry member)
  | some entry =>
    obtain ⟨member, calls⟩ := (entryFor?_eq_some_iff valid).mp found
    refine .inl ⟨entry.1, entry.2, member, ?_, rfl⟩
    intro other listed
    constructor
    · intro callsOther
      exact eq_of_answersTo_of_checkNames valid listed (List.mem_map_of_mem member) callsOther calls
    · rintro rfl
      exact calls

theorem languages_foldl_withPolicy (policies : List Policy) (settings : Settings) :
    (policies.foldl withPolicy settings).languages = settings.languages := by
  induction policies generalizing settings with
  | nil => rfl
  | cons policy rest ih => exact ih (settings.withPolicy policy)

/-- **Validation blames the least name at fault, and after it every override belongs
to one language.** For every table of overrides, validation succeeds exactly when
every name calls a language and no two names call the same one, and a refusal is
about the least name at fault, in the words that `Complaint` gives. In settings from
a text, also with other policies, every entry is the one that is found for exactly
one language, and a language gets the override under the only name that calls it.
The two ways of asking which language a name calls agree on all texts. -/
theorem validate_blames_least_and_overrideFor_finds_only :
    (∀ settings : Settings,
      (settings.validate = .ok () ↔
        (∀ name ∈ settings.languages.names, ∃ language : Language,
          language.answersTo name = true) ∧
        ∀ first ∈ settings.languages.names, ∀ second ∈ settings.languages.names,
          first ≠ second → ∀ language : Language,
            ¬ (language.answersTo first = true ∧ language.answersTo second = true)) ∧
      ∀ problem, settings.validate = .error problem →
        ∃ name, LeastAtFault settings.languages.names name ∧
          Complaint settings.languages.names name problem) ∧
    (∀ language earlier later,
      (SettingsProblem.configuredTwice language earlier later).message =
        "language '" ++ language ++ "' is configured twice, as '" ++ earlier ++ "' and '" ++
          later ++ "'") ∧
    (∀ text loaded (policies : List Policy), ofYaml text = .ok loaded →
      let settings := policies.foldl withPolicy loaded
      (∀ entry ∈ settings.languages.entries,
        ∃! language, settings.entryFor? language = some entry) ∧
      ∀ language,
        settings.overrideFor language = (settings.entryFor? language).map (·.2) ∧
        ((∃ name override, (name, override) ∈ settings.languages.entries ∧
            (∀ other ∈ settings.languages.names,
              language.answersTo other = true ↔ other = name) ∧
            settings.overrideFor language = some override) ∨
          (∀ other ∈ settings.languages.names, language.answersTo other = false) ∧
            settings.overrideFor language = none)) ∧
    ∀ text language, Language.named? text = some language ↔ language.answersTo text = true := by
  refine ⟨?_, ?_, ?_, fun _ _ => Language.named?_eq_some_iff⟩
  · intro settings
    exact ⟨validate_eq_ok_iff_answersTo, fun _ => complaint_of_validate⟩
  · intro language earlier later
    rfl
  · intro text loaded policies accepted settings
    have valid : settings.validate = .ok () := by
      rw [validate, languages_foldl_withPolicy]
      exact (ofYaml_eq_ok_iff.mp accepted).2
    refine ⟨fun _ => existsUnique_entryFor? valid, fun language => ?_⟩
    exact ⟨overrideFor_eq language, overrideFor_cases valid language⟩

/-- The names `PY`, `python` and `zig` are refused because of `python`, and a text
with the names `py` and `RUST` gives Rust the override under `RUST`. -/
theorem validate_blames_python_and_overrideFor_finds_RUST :
    (∃ name, LeastAtFault ["PY", "python", "zig"] name ∧
      Complaint ["PY", "python", "zig"] name (.configuredTwice "python" "PY" "python")) ∧
    ∃ loaded, ofYaml "languages:\n  py:\n  RUST:\n    extra_kinds: [a]\n" = .ok loaded ∧
      ∃! language, (loaded.withPolicy .innermost).entryFor? language =
        some ("RUST", ⟨none, ["a"]⟩) := by
  constructor
  · exact (validate_blames_least_and_overrideFor_finds_only.1
      ⟨.outermost, .ofList [("python", {}), ("zig", {}), ("PY", {})]⟩).2 _ (by decide +kernel)
  · have accepted : (ofYaml "languages:\n  py:\n  RUST:\n    extra_kinds: [a]\n").toOption.map
        (·.languages.entries) = some [("RUST", ⟨none, ["a"]⟩), ("py", {})] := by
      decide +kernel
    cases read : ofYaml "languages:\n  py:\n  RUST:\n    extra_kinds: [a]\n" with
    | error fault =>
      rw [read] at accepted
      cases accepted
    | ok loaded =>
      rw [read] at accepted
      have entries : loaded.languages.entries = [("RUST", ⟨none, ["a"]⟩), ("py", {})] :=
        Option.some.inj accepted
      refine ⟨loaded, rfl, ?_⟩
      refine (validate_blames_least_and_overrideFor_finds_only.2.2.1 _ loaded [.innermost] read).1
        _ ?_
      exact entries ▸ List.mem_cons_self

end Enclosure.Settings
