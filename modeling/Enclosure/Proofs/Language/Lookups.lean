import Enclosure.Command.Report
import Enclosure.Proofs.Language.Paths
import Enclosure.Proofs.Settings.Frame

/-!
# All lookups of a language agree

A language can be asked for in several ways: by looking through the languages, by asking for
the language or a complaint, by asking whether there is one, and by asking for an analyzer
under some settings. All of them lead to the same language or fail together
(`Language.LeadsTo`, `Language.LeadsNowhere`), and which it is depends on the names alone: no
two languages answer to one name, so the order of the languages has no part in it
(`Language.find?_answersTo_of_perm`), and neither has letter case, which is compared letter by
letter for A to Z and for nothing else (`Text.sameLetters_iff_forall₂`).

Names and extensions are two tables. They overlap, and where they do they agree: a text that
is a name of one language is no extension of another
(`Language.eq_of_answersTo_of_ofExtension?`). So asking for a file's extension as the language
of the file is asking for what would have been inferred
(`Command.Invocation.run_of_own_extension`).
-/

set_option autoImplicit false

namespace Enclosure

/-! ## Letter case -/

namespace Text

/-- The second character is the lower case of the first, which is one of the letters A to Z. -/
def IsLowerOf (upper lower : Char) : Prop :=
  'A' ≤ upper ∧ upper ≤ 'Z' ∧ lower.toNat = upper.toNat + 32

/-- Two characters are the same, up to the case of the letters A to Z. -/
def SameLetter (left right : Char) : Prop :=
  left = right ∨ IsLowerOf left right ∨ IsLowerOf right left

theorem isLowerOf_iff_toNat {upper lower : Char} :
    IsLowerOf upper lower ↔
      65 ≤ upper.toNat ∧ upper.toNat ≤ 90 ∧ lower.toNat = upper.toNat + 32 := Iff.rfl

theorem toNat_toLower (c : Char) :
    c.toLower.toNat = if 65 ≤ c.toNat ∧ c.toNat ≤ 90 then c.toNat + 32 else c.toNat := by
  by_cases letter : 65 ≤ c.toNat ∧ c.toNat ≤ 90
  · have lowered : c.toLower.val = c.val + ('a'.val - 'A'.val) :=
      congrArg Char.val (dif_pos letter)
    have distance : ('a'.val - 'A'.val).toNat = 32 := rfl
    have bound : c.val.toNat ≤ 90 := letter.2
    rw [if_pos letter, Char.toNat, Char.toNat, lowered, UInt32.toNat_add, distance]
    omega
  · have same : c.toLower = c := dif_neg letter
    rw [if_neg letter, same]

theorem toLower_eq_toLower_iff {left right : Char} :
    left.toLower = right.toLower ↔ SameLetter left right := by
  rw [SameLetter, isLowerOf_iff_toNat, isLowerOf_iff_toNat, ← Char.toNat_inj, ← Char.toNat_inj,
    toNat_toLower, toNat_toLower]
  split_ifs <;> omega

/-- **Texts agree up to letter case when their characters do**, one by one. -/
theorem sameLetters_iff_forall₂ {left right : String} :
    sameLetters left right = true ↔ List.Forall₂ SameLetter left.toList right.toList := by
  rw [sameLetters, beq_iff_eq, lower, lower, String.ofList_inj, ← List.forall₂_eq_eq_eq,
    List.forall₂_map_left_iff, List.forall₂_map_right_iff]
  simp only [toLower_eq_toLower_iff]

end Text

namespace Language

variable {text other : String} {language second : Language}

/-! ## Ways to look up a name -/

/-- The languages can be looked through in any order. -/
theorem find?_answersTo_of_perm {order : List Language} (shuffled : order.Perm all)
    (text : String) : order.find? (·.answersTo text) = named? text := by
  have complete : ∀ language, language ∈ order := fun language =>
    shuffled.mem_iff.mpr language.mem_all
  ext language
  rw [named?_eq_some_iff, find?_eq_some_iff complete]
  exact fun _ _ => eq_of_answersTo

/-- **All lookups of a name lead to a language**: it is found, with and without a complaint in
reserve, its name is known, and under all settings the analyzer for the name is that of the
language, with the name and the parser of the language. -/
structure LeadsTo (text : String) (language : Language) : Prop where
  found : named? text = some language
  noComplaint : named text = .ok language
  known : isKnown text = true
  analyzer : ∀ (parsers : Parsers) (settings : Settings),
    (parsers.analyzerNamed settings text).value = some (parsers.analyzer settings language)
  ofLanguage : ∀ (parsers : Parsers) (settings : Settings),
    (parsers.analyzer settings language).grammar.language = language.name ∧
      (parsers.analyzer settings language).grammar.parse = parsers language

/-- **All lookups of a name fail.** -/
structure LeadsNowhere (text : String) : Prop where
  notFound : named? text = none
  complaint : named text = .error (.unsupportedLanguage text)
  unknown : isKnown text = false
  noAnalyzer : ∀ (parsers : Parsers) (settings : Settings),
    (parsers.analyzerNamed settings text).value = none

theorem leadsTo_iff : LeadsTo text language ↔ language.answersTo text = true := by
  constructor
  · intro leads
    exact named?_eq_some_iff.mp leads.found
  · intro calls
    have found := named?_eq_some_iff.mpr calls
    refine ⟨found, by rw [named, found], by rw [isKnown, found, Option.isSome_some], ?_, ?_⟩
    · intro parsers settings
      exact Settings.value_analyzerNamed parsers calls
    · intro parsers settings
      exact ⟨rfl, rfl⟩

theorem leadsNowhere_iff :
    LeadsNowhere text ↔ ∀ language : Language, language.answersTo text = false := by
  constructor
  · intro leads
    exact named?_eq_none_iff.mp leads.notFound
  · intro silent
    have notFound := named?_eq_none_iff.mpr silent
    refine ⟨notFound, by rw [named, notFound], by rw [isKnown, notFound, Option.isSome_none], ?_⟩
    intro parsers settings
    rw [Parsers.analyzerNamed, notFound]

theorem answersTo_congr (same : Text.sameLetters text other = true) :
    language.answersTo text = language.answersTo other := by
  rw [Bool.eq_iff_iff, answersTo_iff, answersTo_iff, beq_iff_eq.mp same]

theorem answersTo_name (language : Language) : language.answersTo language.name = true :=
  answersTo_iff.mpr (List.mem_map_of_mem List.mem_cons_self)

/-- Languages are told apart by their names. -/
theorem name_inj (same : language.name = second.name) : language = second :=
  eq_of_answersTo language.answersTo_name (same ▸ second.answersTo_name)

/-! ## Names and extensions -/

/-- What is a name of one language is not an extension of another. -/
theorem disjoint_callNames_extensions :
    ∀ first ∈ all, ∀ second ∈ all, ∀ name ∈ first.callNames,
      name ∈ second.extensions.map Text.lower → first = second := by
  decide +kernel

theorem noDot_callNames : ∀ language ∈ all, ∀ name ∈ language.callNames, '.' ∉ name.toList := by
  decide +kernel

theorem noDot_of_answersTo (calls : language.answersTo text = true) : '.' ∉ text.toList := by
  intro dotted
  refine noDot_callNames language language.mem_all _ (answersTo_iff.mp calls) ?_
  rw [Text.lower, String.toList_ofList]
  exact List.mem_map.mpr ⟨'.', dotted, by decide⟩

/-- Dots in front of an extension are passed over. -/
theorem ofExtension?_dotted (dots : Nat) (text : String) :
    ofExtension? (String.ofList (List.replicate dots '.') ++ text) = ofExtension? text := by
  have passed : ∀ c ∈ List.replicate dots '.', (c == '.') = true := by
    intro c member
    rw [(List.mem_replicate.mp member).2]
    rfl
  rw [ofExtension?, ofExtension?, String.toList_append, String.toList_ofList,
    List.dropWhile_append_of_pos passed]

/-- **A text that is a name and an extension stands for one language.** -/
theorem eq_of_answersTo_of_ofExtension? (calls : language.answersTo text = true)
    (found : ofExtension? text = some second) : language = second := by
  have has := (ofExtension?_eq_some_iff (noDot_of_answersTo calls)).mp found
  exact disjoint_callNames_extensions language language.mem_all second second.mem_all _
    (answersTo_iff.mp calls) (hasExtension_iff.mp has)

end Language

/-- A run that is told the extension of its file as the language is the run that infers the
language. -/
theorem Command.Invocation.run_of_own_extension {invocation : Command.Invocation}
    {extension : String} {asked inferred : Language}
    (shown : PathText.extension? invocation.file = some extension)
    (named : Language.named? extension = some asked)
    (ofPath : Language.ofPath? invocation.file = some inferred)
    (surroundings : Command.Surroundings) :
    Command.Invocation.run { invocation with language := some extension } surroundings =
      Command.Invocation.run { invocation with language := none } surroundings := by
  have found : Language.ofExtension? extension = some inferred := by
    rwa [Language.ofPath?, shown, Option.bind_some] at ofPath
  have same : asked = inferred :=
    Language.eq_of_answersTo_of_ofExtension? (Language.named?_eq_some_iff.mp named) found
  subst same
  have chosen : ∀ settings,
      analyzer { invocation with language := some extension } surroundings settings =
        analyzer { invocation with language := none } surroundings settings := by
    intro settings
    simp only [analyzer, Parsers.analyzerNamed, Parsers.analyzerForPath, named, ofPath]
  -- No other stage looks at the language that is asked for.
  simp only [run, chosen]
  rfl

/-- **All lookups of a language agree.**

* No two languages answer to one text, and the languages can be looked through in any order.
* When a language answers to a text, all lookups lead to it; when none does, all fail.
* Texts that differ in nothing but the case of the letters A to Z lead to the same.
* A language that was found is found again by what its grammar prints, and languages that
  print the same are the same.
* A text that calls a language and is an extension, with any number of dots in front, is an
  extension of that language.
* So a run that is told the extension of its file as the language is the run that infers the
  language, when both know one. -/
theorem Language.lookups_agree :
    (∀ (text : String) (language other : Language), language.answersTo text = true →
      other.answersTo text = true → language = other) ∧
    (∀ order : List Language, order.Perm all →
      ∀ text : String, order.find? (·.answersTo text) = named? text) ∧
    (∀ text : String,
      (∀ language, LeadsTo text language ↔ language.answersTo text = true) ∧
      (LeadsNowhere text ↔ ∀ language : Language, language.answersTo text = false)) ∧
    (∀ text other : String, List.Forall₂ Text.SameLetter text.toList other.toList →
      (∀ language, LeadsTo text language ↔ LeadsTo other language) ∧
      (LeadsNowhere text ↔ LeadsNowhere other)) ∧
    (∀ (text : String) (language : Language) (parse : String → Except Fault Tree),
      LeadsTo text language → LeadsTo (language.grammar parse).language language) ∧
    (∀ language other : Language, language.name = other.name ↔ language = other) ∧
    (∀ (text : String) (dots : Nat) (language other : Language), LeadsTo text language →
      ofExtension? (String.ofList (List.replicate dots '.') ++ text) = some other →
      language = other) ∧
    ∀ (invocation : Command.Invocation) (surroundings : Command.Surroundings)
      (extension : String) (asked inferred : Language),
      PathText.extension? invocation.file = some extension → LeadsTo extension asked →
      ofPath? invocation.file = some inferred →
      Command.Invocation.run { invocation with language := some extension } surroundings =
        Command.Invocation.run { invocation with language := none } surroundings := by
  refine ⟨?_, ?_, ?_, ?_, ?_, ?_, ?_, ?_⟩
  · intro text language other calls callsToo
    exact eq_of_answersTo calls callsToo
  · intro order shuffled text
    exact find?_answersTo_of_perm shuffled text
  · intro text
    exact ⟨fun language => leadsTo_iff, leadsNowhere_iff⟩
  · intro text other sameLetters
    have same := Text.sameLetters_iff_forall₂.mpr sameLetters
    simp only [leadsTo_iff, leadsNowhere_iff, answersTo_congr same, implies_true, and_self]
  · intro text language parse _
    exact leadsTo_iff.mpr language.answersTo_name
  · intro language other
    exact ⟨name_inj, congrArg name⟩
  · intro text dots language other leads found
    rw [ofExtension?_dotted] at found
    exact eq_of_answersTo_of_ofExtension? (leadsTo_iff.mp leads) found
  · intro invocation surroundings extension asked inferred shown leads ofPath
    exact Command.Invocation.run_of_own_extension shown leads.found ofPath surroundings

/-- Python is called `pY`, looked for from the last language to the first, and found as `Py`,
under which every analyzer has the name `python`; `MJS` calls JavaScript and is one of its
extensions behind three dots; and a file `a.tsx` is checked the same with `tsx` as the
language that is asked for and without. -/
theorem Language.lookups_agree_of_mixed_case :
    let surroundings : Command.Surroundings := ⟨fun _ => .ok "<p/>", fun _ _ => .ok none⟩
    let invocation : Command.Invocation := ⟨false, none, "src/a.tsx", none, .json, .check false⟩
    all.reverse.find? (·.answersTo "pY") = some .python ∧
      LeadsTo "Py" .python ∧ LeadsNowhere "Pý" ∧
      (∀ (parsers : Parsers) (settings : Settings),
        (parsers.analyzerNamed settings "Py").value.map (·.grammar.language) = some "python") ∧
      LeadsTo (python.grammar fun _ => .ok none).language .python ∧
      LeadsTo "MJS" .javascript ∧
      ofExtension? (String.ofList (List.replicate 3 '.') ++ "MJS") = some .javascript ∧
      Command.Invocation.run { invocation with language := some "tsx" } surroundings =
        Command.Invocation.run { invocation with language := none } surroundings := by
  intro surroundings invocation
  obtain ⟨-, anyOrder, leads, sameLetters, printed, -, extensions, runs⟩ := lookups_agree
  have python : LeadsTo "pY" .python := ((leads "pY").1 .python).mpr (by decide +kernel)
  have otherCase : LeadsTo "Py" .python := by
    have same : Text.sameLetters "pY" "Py" = true := by decide +kernel
    exact ((sameLetters "pY" "Py" (Text.sameLetters_iff_forall₂.mp same)).1 .python).mp python
  have mjs : LeadsTo "MJS" .javascript := ((leads "MJS").1 .javascript).mpr (by decide +kernel)
  refine ⟨?_, otherCase, ?_, ?_, printed "pY" .python _ python, mjs, ?_, ?_⟩
  · rw [anyOrder all.reverse (List.reverse_perm all) "pY"]
    exact python.found
  · refine (leads "Pý").2.mpr fun language => ?_
    cases language <;> decide +kernel
  · intro parsers settings
    rw [otherCase.analyzer, Option.map_some, (otherCase.ofLanguage parsers settings).1]
    rfl
  · have some : (ofExtension? (String.ofList (List.replicate 3 '.') ++ "MJS")).isSome = true := by
      decide +kernel
    obtain ⟨language, found⟩ := Option.isSome_iff_exists.mp some
    rw [found, ← extensions "MJS" 3 .javascript language mjs found]
  · have tsx : LeadsTo "tsx" .tsx := ((leads "tsx").1 .tsx).mpr (by decide +kernel)
    exact runs invocation surroundings "tsx" .tsx .tsx (by decide +kernel) tsx (by decide +kernel)

end Enclosure
