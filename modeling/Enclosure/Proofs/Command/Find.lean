import Enclosure.Proofs.Command.Check
import Enclosure.Proofs.Command.Lookup
import Enclosure.Proofs.Settings.Frame

/-!
# What a lookup leaves behind

A run that looks something up fails only where every run fails: in loading the
settings, in choosing the language or in reading the file. Once these stages are
behind, there is an answer whatever the lines are and whatever the parser says,
and the run ends well (`Lookup.result_of_ready`).

What is printed comes from four places. The lines and the format come from the
arguments, with what is filled in for those left out; the kinds come from the
settings, by the entry that counts for the language, or from the language when no
entry does; and the policy comes from the arguments if they give one and from the
settings if not (`Lookup.Selects`, `Lookup.analyzer_adjusted`).
-/

set_option autoImplicit false

namespace Enclosure.Command.Lookup

/-- The analyzer for a lookup in a text of a language under the settings: the kinds
are those of the settings, and so is the policy unless the lookup has its own. -/
def analyzer (lookup : Lookup) (surroundings : Surroundings) (settings : Settings)
    (language : Language) : Analyzer where
  grammar := language.grammar (surroundings.parsers language)
  selection :=
    { kinds := (settings.selectionFor language).kinds
      policy := lookup.policy.getD settings.policy }

/-- **What is selected for a lookup in a language under the settings.** The policy is
that of the lookup if it has one, and else that of the settings. A kind is structural
exactly when the entry under the least name that calls the language lists it, or,
when no name calls the language, it is built in. -/
structure Selects (lookup : Lookup) (settings : Settings) (language : Language)
    (selection : Selection) : Prop where
  policy : selection.policy = lookup.policy.getD settings.policy
  kinds : ∀ kind, selection.kinds.contains kind = true ↔
    (∃ name entry, settings.LeastCalling language name entry ∧ entry.Lists language kind) ∨
      ((∀ name ∈ settings.languages.names, language.answersTo name = false) ∧
        kind ∈ language.kindList)

/-- What a lookup finds in a text: the last line is the first one unless it is
given. -/
def finding (lookup : Lookup) (analyzer : Analyzer) (text : String) : Finding :=
  (analyzer.find text lookup.first (lookup.last.getD lookup.first)).value

/-- **Everything that a lookup needs is there**: the settings load, the language is
known, and the file is read. -/
def Ready (lookup : Lookup) (surroundings : Surroundings) : Prop :=
  (∃ settings, lookup.invocation.Loads surroundings settings) ∧
    (∃ language, lookup.invocation.language? = some language) ∧
    ∃ text, surroundings.read lookup.file = .ok text

variable {lookup : Lookup} {surroundings : Surroundings} {words : List String}

theorem analyzer_adjusted (settings : Settings) (language : Language) :
    surroundings.parsers.analyzer (lookup.invocation.adjusted settings) language =
      lookup.analyzer surroundings settings language := by
  unfold analyzer Invocation.adjusted invocation
  cases lookup.policy with
  | none => rfl
  | some policy => rfl

theorem selects_analyzer (settings : Settings) (language : Language) :
    lookup.Selects settings language
      (lookup.analyzer surroundings settings language).selection where
  policy := rfl
  kinds _ := Settings.contains_selectionFor_iff

/-- A lookup for which everything is there ends with its finding, whatever it is. -/
theorem result_of_ready {settings : Settings} {language : Language} {text : String}
    (loads : lookup.invocation.Loads surroundings settings)
    (known : lookup.invocation.language? = some language)
    (read : surroundings.read lookup.file = .ok text) :
    (lookup.invocation.run surroundings).result =
      .ok ⟨(lookup.format.getD .json).render
        (lookup.finding (lookup.analyzer surroundings settings language) text).toValue, true⟩ := by
  rw [Invocation.run_result_of_ready loads known read, analyzer_adjusted]
  rfl

/-- The transcript of words that ask for a lookup is that of its run. -/
theorem AskedBy.transcript_eq (asked : lookup.AskedBy words) :
    (Request.ofArguments words).transcript surroundings =
      (lookup.invocation.run surroundings).transcript lookup.verbose := by
  rw [asked.ofArguments]
  rfl

theorem AskedBy.transcript_of_ready {settings : Settings} {language : Language} {text : String}
    (asked : lookup.AskedBy words) (loads : lookup.invocation.Loads surroundings settings)
    (known : lookup.invocation.language? = some language)
    (read : surroundings.read lookup.file = .ok text) :
    let transcript := (Request.ofArguments words).transcript surroundings
    transcript.code = 0 ∧ transcript.Prints (lookup.format.getD .json)
      (lookup.finding (lookup.analyzer surroundings settings language) text).toValue := by
  have result := result_of_ready loads known read
  rw [asked.transcript_eq]
  exact ⟨Report.code_eq_zero_iff.mpr ⟨_, result, rfl⟩,
    Report.transcript_prints result lookup.verbose⟩

theorem AskedBy.transcript_of_failure {failure : Failure} (asked : lookup.AskedBy words)
    (failed : lookup.invocation.firstFailure? surroundings = some failure) :
    let transcript := (Request.ofArguments words).transcript surroundings
    transcript.code = 1 ∧ transcript.output = "" ∧ transcript.Reports lookup.verbose failure := by
  have result := Invocation.run_result_of_failure failed
  rw [asked.transcript_eq]
  refine ⟨?_, Report.output_of_error result, Report.transcript_reports result lookup.verbose⟩
  show Report.code _ = 1
  rw [Report.code, result]

theorem exists_failure_of_not_ready (unready : ¬ lookup.Ready surroundings) :
    ∃ failure, lookup.invocation.firstFailure? surroundings = some failure := by
  rw [← Option.isSome_iff_exists, Option.isSome_iff_ne_none]
  exact fun none => unready (Invocation.firstFailure?_eq_none_iff.mp none)

/-- **What a lookup leaves behind.** Arguments that ask to find something ask for a
lookup, and every lookup whose paths are not empty is asked for by the words that
spell out its options. For all arguments that ask for a lookup, all files and all
parsers:

* the exit code is zero exactly when the settings load, the language is known and
  the file is read, whatever the lines are and whatever the parser says;
* then the finding is printed, as JSON or YAML and with a line break: it is what an
  analyzer finds that has the grammar of the language, selects the kinds that the
  settings list for the language, and follows the policy of the lookup if it has one
  and else that of the settings;
* else the exit code is one, nothing is printed, and the failure of the first stage
  that fails is reported. -/
theorem findTranscript_spec (surroundings : Surroundings) :
    (∀ words invocation first last policy, Request.ofArguments words = .run invocation →
      invocation.action = .find first last policy →
      ∃ lookup : Lookup, lookup.AskedBy words ∧ lookup.invocation = invocation) ∧
    (∀ lookup : Lookup, lookup.file ≠ "" → lookup.settingsPath ≠ some "" →
      lookup.AskedBy lookup.written) ∧
    ∀ words, ∀ lookup : Lookup, lookup.AskedBy words →
      let transcript := (Request.ofArguments words).transcript surroundings
      (transcript.code = 0 ↔ lookup.Ready surroundings) ∧
        (∀ settings language text, lookup.invocation.Loads surroundings settings →
          lookup.invocation.language? = some language →
          surroundings.read lookup.file = .ok text →
          let analyzer := lookup.analyzer surroundings settings language
          analyzer.grammar = language.grammar (surroundings.parsers language) ∧
            lookup.Selects settings language analyzer.selection ∧
            transcript.code = 0 ∧
            transcript.Prints (lookup.format.getD .json)
              (lookup.finding analyzer text).toValue) ∧
        (¬ lookup.Ready surroundings →
          ∃ failure, lookup.invocation.firstFailure? surroundings = some failure ∧
            transcript.code = 1 ∧ transcript.output = "" ∧
            transcript.Reports lookup.verbose failure) := by
  refine ⟨?_, ?_, ?_⟩
  · intro words invocation first last policy runs finds
    exact exists_askedBy runs finds
  · intro lookup named nonempty
    exact askedBy_written named nonempty
  · intro words lookup asked transcript
    have unready : ¬ lookup.Ready surroundings →
        ∃ failure, lookup.invocation.firstFailure? surroundings = some failure ∧
          transcript.code = 1 ∧ transcript.output = "" ∧
          transcript.Reports lookup.verbose failure := by
      intro unready
      obtain ⟨failure, failed⟩ := exists_failure_of_not_ready unready
      exact ⟨failure, failed, asked.transcript_of_failure failed⟩
    refine ⟨⟨?_, ?_⟩, ?_, unready⟩
    · intro zero
      by_contra missing
      obtain ⟨failure, -, one, -⟩ := unready missing
      rw [zero] at one
      contradiction
    · rintro ⟨⟨settings, loads⟩, ⟨language, known⟩, ⟨text, read⟩⟩
      exact (asked.transcript_of_ready loads known read).1
    · intro settings language text loads known read analyzer
      exact ⟨rfl, selects_analyzer settings language, asked.transcript_of_ready loads known read⟩

/-- A class on lines 1 to 4 has a method on lines 2 to 3. The settings ask for the
innermost unit, which is printed for line 3 unless the arguments ask for the
outermost one or the settings put classes in the place of the built-in kinds, under
whatever name they call the language. Lines that are no range give an answer, and a file whose language is
not evident is refused for that even if it is also missing. -/
theorem findTranscript_spec_of_class_with_method :
    let method : Node := ⟨"function_definition", ⟨1, 4⟩, ⟨2, 12⟩, false, []⟩
    let whole : Node := ⟨"class_definition", ⟨0, 0⟩, ⟨4, 0⟩, false, [method]⟩
    let surroundings : Surroundings :=
      { read := fun path =>
          if path = "a.py" then .ok "class A:\n    def m():\n        pass\n\n"
          else if path = "c.yml" then .ok "policy: innermost\n"
          else if path = "d.yml" then
            .ok "policy: innermost\nlanguages:\n  PY:\n    structural_kinds: [class_definition]\n"
          else .error .missing
        parsers := fun _ _ => .ok (some whole) }
    let ask := fun words => (Request.ofArguments words).transcript surroundings
    (ask ["find", "--config=c.yml", "--start=3", "--", "a.py"]).output =
        (Finding.mk (some (.ofSpan method.kind method.span))).toValue.json ++ "\n" ∧
      (ask ["find", "--config=c.yml", "--start=3", "--policy=outermost", "--", "a.py"]).output =
        (Finding.mk (some (.ofSpan whole.kind whole.span))).toValue.json ++ "\n" ∧
      (ask ["find", "--config=d.yml", "--start=3", "--", "a.py"]).output =
        (Finding.mk (some (.ofSpan whole.kind whole.span))).toValue.json ++ "\n" ∧
      (ask ["find", "--format=yaml", "--start=3", "--end=2", "--", "a.py"]).output =
        Finding.nothing.toValue.yaml ++ "\n" ∧
      (ask ["find", "--start=3", "--", "a"]).code = 1 ∧
      (ask ["find", "--start=3", "--", "a"]).output = "" ∧
      (ask ["find", "--start=3", "--", "a"]).errors = (Failure.unknownLanguage "a").message := by
  intro method whole surroundings ask
  obtain ⟨-, spelled, spec⟩ := findTranscript_spec surroundings
  have asks : ∀ lookup : Lookup, ∀ words, lookup.file ≠ "" → lookup.settingsPath ≠ some "" →
      lookup.written = words → lookup.AskedBy words :=
    fun lookup words named nonempty written => written ▸ spelled lookup named nonempty
  have prints : ∀ lookup : Lookup, ∀ words settings found, lookup.AskedBy words →
      lookup.file = "a.py" → lookup.language = none →
      lookup.invocation.Loads surroundings settings →
      lookup.finding (lookup.analyzer surroundings settings .python)
        "class A:\n    def m():\n        pass\n\n" = found →
      (ask words).Prints (lookup.format.getD .json) found.toValue := by
    intro lookup words settings found asked file unnamed loads finds
    have known : lookup.invocation.language? = some .python := by
      simp only [Invocation.language?, invocation, file, unnamed]
      decide +kernel
    have read : surroundings.read lookup.file = .ok "class A:\n    def m():\n        pass\n\n" := by
      rw [file]
      rfl
    rw [← finds]
    exact ((spec words lookup asked).2.1 settings .python _ loads known read).2.2.2
  have settings : Settings.ofYaml "policy: innermost\n" = .ok { policy := .innermost } := by
    decide +kernel
  have classes : Settings.ofYaml
        "policy: innermost\nlanguages:\n  PY:\n    structural_kinds: [class_definition]\n" =
      .ok ⟨.innermost, .ofList [("PY", ⟨some ["class_definition"], []⟩)]⟩ := by
    decide +kernel
  refine ⟨?_, ?_, ?_, ?_, ?_⟩
  · let lookup : Lookup := ⟨false, some "c.yml", "a.py", none, none, 3, none, none⟩
    exact prints lookup _ _ _ (asks _ _ (by decide) (by decide) (by decide +kernel)) rfl rfl
      ⟨_, rfl, settings⟩ (by decide +kernel)
  · let lookup : Lookup := ⟨false, some "c.yml", "a.py", none, none, 3, none, some .outermost⟩
    exact prints lookup _ _ _ (asks _ _ (by decide) (by decide) (by decide +kernel)) rfl rfl
      ⟨_, rfl, settings⟩ (by decide +kernel)
  · let lookup : Lookup := ⟨false, some "d.yml", "a.py", none, none, 3, none, none⟩
    exact prints lookup _ _ _ (asks _ _ (by decide) (by decide) (by decide +kernel)) rfl rfl
      ⟨_, rfl, classes⟩ (by decide +kernel)
  · let lookup : Lookup := ⟨false, none, "a.py", none, some .yaml, 3, some 2, none⟩
    exact prints lookup _ _ _ (asks _ _ (by decide) (by decide) (by decide +kernel)) rfl rfl
      rfl (by decide +kernel)
  · let lookup : Lookup := ⟨false, none, "a", none, none, 3, none, none⟩
    have unready : ¬ lookup.Ready surroundings := by
      rintro ⟨-, ⟨language, known⟩, -⟩
      have unknown : Language.ofPath? "a" = none := by decide +kernel
      cases unknown.symm.trans known
    have first : lookup.invocation.firstFailure? surroundings = some (.unknownLanguage "a") := by
      decide +kernel
    have asked : lookup.AskedBy ["find", "--start=3", "--", "a"] :=
      asks _ _ (by decide) (by decide) (by decide +kernel)
    obtain ⟨failure, failed, one, nothing, log, errors, quiet⟩ := (spec _ lookup asked).2.2 unready
    cases first.symm.trans failed
    rw [quiet rfl, String.empty_append] at errors
    exact ⟨one, nothing, errors⟩

end Enclosure.Command.Lookup
