import Enclosure.Catalog
import Enclosure.Proofs.Language.Naming
import Enclosure.Proofs.Settings.Kinds
import Enclosure.Proofs.Text.ByteOrder

/-!
# What settings say about one language

Settings are a table of overrides, and several names in it may call one language. The
override that counts is the one under the least of these names
(`Settings.overrideFor_eq_some_iff`); all others are passed over, whether or not the
settings are valid.

So what is selected in a language depends on the entries whose names call the language
and on nothing else (`Settings.selectionFor_eq_of_agreeOn`). It depends on them only
through the set of kinds that they amount to (`Override.kindsIn`), and neither the order
of a list nor repetitions in it change this set. Entries for other languages can be
added, changed and removed, and a new policy changes the policy alone. An analyzer for
the language, whether the language is named or shown by a path, selects exactly this.
-/

set_option autoImplicit false

namespace Enclosure

/-! ## The kinds that an override amounts to -/

namespace Override

variable {entry first second : Override} {language : Language} {kind : String}

/-- A kind is structural in a language that has the override: it is an extra kind, or one
of the kinds put in the place of the built-in ones, or one of these when none are. -/
def Lists (entry : Override) (language : Language) (kind : String) : Prop :=
  kind ∈ entry.extraKinds ∨
    (∃ written, entry.structuralKinds = some written ∧ kind ∈ written) ∨
    (entry.structuralKinds = none ∧ kind ∈ language.kindList)

/-- Two overrides list the same kinds, in whatever order and however often. -/
structure SameKinds (first second : Override) : Prop where
  structural : Option.Rel (fun kinds others => ∀ kind, kind ∈ kinds ↔ kind ∈ others)
    first.structuralKinds second.structuralKinds
  extra : ∀ kind, kind ∈ first.extraKinds ↔ kind ∈ second.extraKinds

/-- The set of kinds that are structural in a language that has the override. -/
def kindsIn (entry : Override) (language : Language) : KindSet :=
  ((entry.structuralKinds.map KindSet.ofList).getD language.kinds).extend entry.extraKinds

theorem mem_kindsIn : kind ∈ (entry.kindsIn language).kinds ↔ entry.Lists language kind := by
  rw [kindsIn, KindSet.mem_extend, Lists, or_comm]
  cases entry.structuralKinds with
  | none => simp [Language.kinds, KindSet.mem_ofList]
  | some written => simp [KindSet.mem_ofList]

/-- **Overrides with the same kinds amount to the same set.** -/
theorem SameKinds.kindsIn_eq (same : first.SameKinds second) (language : Language) :
    first.kindsIn language = second.kindsIn language := by
  obtain ⟨written, extra⟩ := first
  obtain ⟨writtenToo, extraToo⟩ := second
  obtain ⟨sameWritten, sameExtra⟩ := same
  refine KindSet.eq_of_mem_iff fun kind => ?_
  rw [mem_kindsIn, mem_kindsIn, Lists, Lists, sameExtra kind]
  cases sameWritten with
  | none => rfl
  | some members => simp [members kind]

end Override

namespace Settings

variable {settings others : Settings} {language : Language}

theorem kinds_selectionFor (settings : Settings) (language : Language) :
    (settings.selectionFor language).kinds =
      ((settings.overrideFor language).map (·.kindsIn language)).getD language.kinds := by
  rw [selectionFor]
  cases settings.overrideFor language with
  | none => rfl
  | some entry =>
    obtain ⟨written, extra⟩ := entry
    cases written <;> rfl

/-! ## The entry that counts -/

/-- An entry stands under the least name, in the order of the bytes, that calls a
language. -/
structure LeastCalling (settings : Settings) (language : Language) (name : String)
    (entry : Override) : Prop where
  listed : (name, entry) ∈ settings.languages.entries
  calls : language.answersTo name = true
  least : ∀ other ∈ settings.languages.names, language.answersTo other = true →
    other = name ∨ Text.Before name other

/-- **The override for a language is the entry under the least name that calls it.** -/
theorem overrideFor_eq_some_iff {entry : Override} :
    settings.overrideFor language = some entry ↔
      ∃ name, settings.LeastCalling language name entry := by
  have ordered := settings.languages.ordered
  constructor
  · intro found
    obtain ⟨⟨name, _⟩, first, rfl⟩ := Option.map_eq_some_iff.mp found
    have calls := List.find?_some first
    refine ⟨name, List.mem_of_find?_eq_some first, calls, ?_⟩
    intro other listed otherCalls
    obtain ⟨entry, member, rfl⟩ := List.mem_map.mp listed
    rcases OverrideTable.eq_or_lt_of_find?_eq_some ordered first member otherCalls with
      same | less
    · exact .inl (congrArg Prod.fst same)
    · exact .inr (Text.before_iff_lt.mpr less)
  · rintro ⟨name, listed, calls, least⟩
    cases first : settings.languages.entries.find? fun entry => language.answersTo entry.1 with
    | none => exact absurd calls (List.find?_eq_none.mp first (name, entry) listed)
    | some found =>
      have foundListed : found.1 ∈ settings.languages.names :=
        List.mem_map_of_mem (List.mem_of_find?_eq_some first)
      have foundCalls := List.find?_some first
      rcases OverrideTable.eq_or_lt_of_find?_eq_some ordered first listed calls with same | less
      · rw [overrideFor, first, ← same, Option.map_some]
      · rcases least found.1 foundListed foundCalls with same | greater
        · exact absurd (same ▸ less) (String.lt_irrefl name)
        · exact absurd (String.lt_trans less (Text.before_iff_lt.mp greater))
            (String.lt_irrefl found.1)

theorem overrideFor_eq_none_iff :
    settings.overrideFor language = none ↔
      ∀ name ∈ settings.languages.names, language.answersTo name = false := by
  rw [overrideFor, Option.map_eq_none_iff, List.find?_eq_none, OverrideTable.names,
    List.forall_mem_map]
  simp only [Bool.not_eq_true]

/-- **The kinds that settings make structural in a language**, by the entry that
counts. -/
theorem contains_selectionFor_iff {kind : String} :
    (settings.selectionFor language).kinds.contains kind = true ↔
      (∃ name entry, settings.LeastCalling language name entry ∧ entry.Lists language kind) ∨
        ((∀ name ∈ settings.languages.names, language.answersTo name = false) ∧
          kind ∈ language.kindList) := by
  rw [KindSet.contains_iff_mem, kinds_selectionFor, ← overrideFor_eq_none_iff, exists_comm]
  simp only [exists_and_right, ← overrideFor_eq_some_iff]
  cases settings.overrideFor language with
  | none => simp [Language.kinds, KindSet.mem_ofList]
  | some entry => simp [Override.mem_kindsIn]

/-! ## What else the settings hold -/

/-- Settings agree on a language: the entries under every name that calls it amount to
the same set of kinds, if there are any. -/
def AgreeOn (language : Language) (settings others : Settings) : Prop :=
  ∀ name, language.answersTo name = true →
    (settings.languages.entries.lookup name).map (·.kindsIn language) =
      (others.languages.entries.lookup name).map (·.kindsIn language)

theorem AgreeOn.symm (agree : AgreeOn language settings others) :
    AgreeOn language others settings :=
  fun name calls => (agree name calls).symm

/-- Names that call a language are the same in settings that agree on it. -/
theorem AgreeOn.mem_names (agree : AgreeOn language settings others) {name : String}
    (calls : language.answersTo name = true) (listed : name ∈ settings.languages.names) :
    name ∈ others.languages.names := by
  rw [OverrideTable.names, OverrideTable.mem_keys_iff_lookup_isSome] at listed ⊢
  have same := congrArg Option.isSome (agree name calls)
  rwa [Option.isSome_map, Option.isSome_map, listed, eq_comm] at same

/-- The entry that counts in one of two settings that agree has a counterpart in the
other, under the same name. -/
theorem AgreeOn.exists_leastCalling (agree : AgreeOn language settings others) {name : String}
    {entry : Override} (counts : settings.LeastCalling language name entry) :
    ∃ other, others.LeastCalling language name other ∧
      other.kindsIn language = entry.kindsIn language := by
  obtain ⟨listed, calls, least⟩ := counts
  have related := agree name calls
  rw [OverrideTable.mem_entries_iff_lookup.mp listed, Option.map_some, eq_comm,
    Option.map_eq_some_iff] at related
  obtain ⟨other, written, same⟩ := related
  refine ⟨other, ⟨OverrideTable.mem_entries_iff_lookup.mpr written, calls, ?_⟩, same⟩
  intro further furtherListed furtherCalls
  exact least further (agree.symm.mem_names furtherCalls furtherListed) furtherCalls

theorem AgreeOn.map_overrideFor (agree : AgreeOn language settings others) :
    (settings.overrideFor language).map (·.kindsIn language) =
      (others.overrideFor language).map (·.kindsIn language) := by
  cases counts : settings.overrideFor language with
  | none =>
    have silent := overrideFor_eq_none_iff.mp counts
    have silentToo : others.overrideFor language = none := by
      refine overrideFor_eq_none_iff.mpr fun name listed => ?_
      cases calls : language.answersTo name with
      | false => rfl
      | true => exact calls.symm.trans (silent name (agree.symm.mem_names calls listed))
    rw [silentToo]
  | some entry =>
    obtain ⟨name, least⟩ := overrideFor_eq_some_iff.mp counts
    obtain ⟨other, leastToo, same⟩ := agree.exists_leastCalling least
    rw [overrideFor_eq_some_iff.mpr ⟨name, leastToo⟩, Option.map_some, Option.map_some, same]

/-- **What is selected in a language depends on its own entries alone.** -/
theorem selectionFor_eq_of_agreeOn (samePolicy : settings.policy = others.policy)
    (agree : AgreeOn language settings others) :
    settings.selectionFor language = others.selectionFor language := by
  have kinds : (settings.selectionFor language).kinds = (others.selectionFor language).kinds := by
    rw [kinds_selectionFor, kinds_selectionFor, agree.map_overrideFor]
  calc settings.selectionFor language
      = ⟨(settings.selectionFor language).kinds, settings.policy⟩ := rfl
    _ = ⟨(others.selectionFor language).kinds, others.policy⟩ := by rw [kinds, samePolicy]
    _ = others.selectionFor language := rfl

theorem agreeOn_of_mem_entries_iff
    (same : ∀ name entry, language.answersTo name = true →
      ((name, entry) ∈ settings.languages.entries ↔ (name, entry) ∈ others.languages.entries)) :
    AgreeOn language settings others := by
  intro name calls
  have found : settings.languages.entries.lookup name = others.languages.entries.lookup name := by
    refine Option.ext fun entry => ?_
    rw [← OverrideTable.mem_entries_iff_lookup, ← OverrideTable.mem_entries_iff_lookup]
    exact same name entry calls
  rw [found]

theorem agreeOn_of_sameKinds
    (same : ∀ name, language.answersTo name = true →
      Option.Rel Override.SameKinds (settings.languages.entries.lookup name)
        (others.languages.entries.lookup name)) :
    AgreeOn language settings others := by
  intro name calls
  have related := same name calls
  generalize settings.languages.entries.lookup name = written at related ⊢
  generalize others.languages.entries.lookup name = writtenToo at related ⊢
  cases related with
  | none => rfl
  | some sameKinds => exact congrArg some (sameKinds.kindsIn_eq language)

/-- A name that does not call a language is not one that does. -/
theorem ne_of_answersTo {name other : String} (silent : language.answersTo name = false)
    (calls : language.answersTo other = true) : other ≠ name := by
  rintro rfl
  rw [silent] at calls
  cases calls

/-- Another language's entry can be added or changed. -/
theorem selectionFor_insert {name : String} (silent : language.answersTo name = false)
    (entry : Override) :
    selectionFor { settings with languages := settings.languages.insert name entry } language =
      settings.selectionFor language := by
  refine selectionFor_eq_of_agreeOn rfl (agreeOn_of_mem_entries_iff fun other written calls => ?_)
  rw [OverrideTable.mem_entries_iff_lookup, OverrideTable.mem_entries_iff_lookup,
    OverrideTable.insert, OverrideTable.lookup_place, if_neg (ne_of_answersTo silent calls)]

/-- Another language's entry can be removed. -/
theorem selectionFor_erase {name : String} (silent : language.answersTo name = false) :
    selectionFor { settings with languages := settings.languages.erase name } language =
      settings.selectionFor language := by
  refine selectionFor_eq_of_agreeOn rfl (agreeOn_of_mem_entries_iff fun other written calls => ?_)
  have different := ne_of_answersTo silent calls
  simp [OverrideTable.erase, different]

/-! ## Analyzers -/

theorem value_analyzerNamed (parsers : Parsers) {name : String}
    (calls : language.answersTo name = true) :
    (parsers.analyzerNamed settings name).value = some (parsers.analyzer settings language) := by
  rw [Parsers.analyzerNamed, Language.named?_eq_some_iff.mpr calls]

theorem value_analyzerForPath (parsers : Parsers) {path : String}
    (shows : Language.ofPath? path = some language) :
    (parsers.analyzerForPath settings path).value = some (parsers.analyzer settings language) := by
  rw [Parsers.analyzerForPath, shows]

/-- **What is selected in a language follows from its own entries.** For all settings, valid
or not:

* the policy is that of the settings, and a kind is structural exactly when the entry under
  the least name that calls the language lists it, or, when no name calls the language, it
  is built in;
* settings with the same policy select the same in a language when they have the same
  entries under the names that call it, and also when the lists in these entries differ
  only in order and repetitions;
* so entries under other names can be added, changed and removed, and another policy
  changes nothing but the policy;
* an analyzer for a name that calls the language, or for a path that shows it, selects
  exactly this and has the name and the error kind of the language. -/
theorem selectionFor_follows_own_entries :
    (∀ (settings : Settings) (language : Language),
      (settings.selectionFor language).policy = settings.policy ∧
      ∀ kind, (settings.selectionFor language).kinds.contains kind = true ↔
        (∃ name entry, settings.LeastCalling language name entry ∧ entry.Lists language kind) ∨
          ((∀ name ∈ settings.languages.names, language.answersTo name = false) ∧
            kind ∈ language.kindList)) ∧
    (∀ (settings others : Settings) (language : Language), settings.policy = others.policy →
      ((∀ name entry, language.answersTo name = true →
          ((name, entry) ∈ settings.languages.entries ↔
            (name, entry) ∈ others.languages.entries)) →
        settings.selectionFor language = others.selectionFor language) ∧
      ((∀ name, language.answersTo name = true →
          Option.Rel Override.SameKinds (settings.languages.entries.lookup name)
            (others.languages.entries.lookup name)) →
        settings.selectionFor language = others.selectionFor language)) ∧
    (∀ (settings : Settings) (language : Language) (name : String),
      language.answersTo name = false →
      (∀ entry,
        selectionFor { settings with languages := settings.languages.insert name entry } language =
          settings.selectionFor language) ∧
      selectionFor { settings with languages := settings.languages.erase name } language =
        settings.selectionFor language) ∧
    (∀ (settings : Settings) (policy : Policy),
      (settings.withPolicy policy).languages = settings.languages ∧
      ∀ language, (settings.withPolicy policy).selectionFor language =
        { settings.selectionFor language with policy := policy }) ∧
    ∀ (parsers : Parsers) (settings : Settings) (language : Language),
      let analyzer := parsers.analyzer settings language
      (∀ name, language.answersTo name = true →
        (parsers.analyzerNamed settings name).value = some analyzer) ∧
      (∀ path, Language.ofPath? path = some language →
        (parsers.analyzerForPath settings path).value = some analyzer) ∧
      analyzer.selection = settings.selectionFor language ∧
      analyzer.grammar.language = language.name ∧ analyzer.grammar.errorKind = "ERROR" ∧
      analyzer.checker = ⟨language.name, "ERROR"⟩ := by
  refine ⟨?_, ?_, ?_, ?_, ?_⟩
  · intro settings language
    exact ⟨rfl, fun kind => contains_selectionFor_iff⟩
  · intro settings others language samePolicy
    refine ⟨?_, ?_⟩
    · intro same
      exact selectionFor_eq_of_agreeOn samePolicy (agreeOn_of_mem_entries_iff same)
    · intro same
      exact selectionFor_eq_of_agreeOn samePolicy (agreeOn_of_sameKinds same)
  · intro settings language name silent
    exact ⟨selectionFor_insert silent, selectionFor_erase silent⟩
  · intro settings policy
    exact ⟨rfl, fun language => rfl⟩
  · intro parsers settings language analyzer
    refine ⟨?_, ?_, rfl, rfl, rfl, rfl⟩
    · intro name calls
      exact value_analyzerNamed parsers calls
    · intro path shows
      exact value_analyzerForPath parsers shows

/-- Python is called by `PY` and by `python`, and the entry under `PY` counts. It keeps the
built-in kinds and adds one; writing this one twice makes no difference, nor does removing
the entry of Rust. The name `Python` and the path `a.py` lead to the same analyzer. -/
theorem selectionFor_follows_own_entries_of_PY_and_python :
    let settings (extra : List String) : Settings := ⟨.innermost, .ofList
      [("python", ⟨some ["block"], []⟩), ("rust", ⟨some [], []⟩), ("PY", ⟨none, extra⟩)]⟩
    let once := settings ["if_statement"]
    let parsers : Parsers := fun _ _ => .ok none
    (once.selectionFor .python).kinds.contains "class_definition" = true ∧
      once.selectionFor .python =
        (settings ["if_statement", "if_statement"]).selectionFor .python ∧
      selectionFor { once with languages := once.languages.erase "rust" } .python =
        once.selectionFor .python ∧
      (parsers.analyzerNamed once "Python").value =
        (parsers.analyzerForPath once "a.py").value := by
  intro settings once parsers
  obtain ⟨kinds, frame, elsewhere, -, analyzers⟩ := selectionFor_follows_own_entries
  refine ⟨?_, ?_, ?_, ?_⟩
  · refine ((kinds once .python).2 _).mpr (.inl ⟨"PY", ⟨none, ["if_statement"]⟩, ?_, ?_⟩)
    · refine ⟨by decide +kernel, by decide +kernel, ?_⟩
      have others : once.languages.names = ["PY", "python", "rust"] := by decide +kernel
      rw [others]
      simp only [Text.before_iff_lt]
      decide +kernel
    · exact .inr (.inr ⟨rfl, by decide⟩)
  · let entries (extra : List String) : List (String × Override) :=
      [("PY", ⟨none, extra⟩), ("python", ⟨some ["block"], []⟩), ("rust", ⟨some [], []⟩)]
    have written : once.languages.entries = entries ["if_statement"] := by decide +kernel
    have writtenTwice : (settings ["if_statement", "if_statement"]).languages.entries =
        entries ["if_statement", "if_statement"] := by decide +kernel
    have same : Override.SameKinds ⟨none, ["if_statement"]⟩
        ⟨none, ["if_statement", "if_statement"]⟩ := ⟨.none, by simp⟩
    refine (frame once (settings ["if_statement", "if_statement"]) .python rfl).2 fun name _ => ?_
    simp only [written, writtenTwice, entries, lookup_cons_eq_ite]
    split_ifs
    · exact .some same
    · exact .some ⟨.some fun _ => Iff.rfl, fun _ => Iff.rfl⟩
    · exact .some ⟨.some fun _ => Iff.rfl, fun _ => Iff.rfl⟩
    · exact .none
  · exact (elsewhere once .python "rust" (by decide +kernel)).2
  · obtain ⟨named, shown, -⟩ := analyzers parsers once .python
    rw [named "Python" (by decide +kernel), shown "a.py" (by decide +kernel)]

end Settings

end Enclosure
