import Enclosure.Command.Report

/-!
# The stages of a run

Before a command analyzes anything, the settings must load, the language of the
source file must be known, and the file must be read. Each stage is described
here by itself: what it gives, and how it fails. The stages are tried in this
order, and the failure of the first that fails is the failure of the run
(`Invocation.run_result_of_failure`). When none fails, the run gives the answer of
the analyzer for the language under the settings
(`Invocation.run_result_of_ready`). The two cases exclude each other and there is
no third (`Invocation.firstFailure?_eq_none_iff`).

What a stage gives is described without the stage itself, from what the
invocation asks for and what the surroundings hold.
-/

set_option autoImplicit false

namespace Enclosure.Command

namespace Invocation

/-- The settings that a run loads: those of the file that is asked for, or the
standard ones. -/
def Loads (invocation : Invocation) (surroundings : Surroundings) (settings : Settings) : Prop :=
  match invocation.settingsPath with
  | none => settings = {}
  | some path => ∃ text, surroundings.read path = .ok text ∧ Settings.ofYaml text = .ok settings

/-- The language of the source file: the one that is asked for, or the one that
the name of the file shows. -/
def language? (invocation : Invocation) : Option Language :=
  match invocation.language with
  | some name => Language.named? name
  | none => Language.ofPath? invocation.file

/-- How the settings fail to load. -/
def settingsFailure? (invocation : Invocation) (surroundings : Surroundings) : Option Failure :=
  match invocation.settingsPath with
  | none => none
  | some path =>
    match surroundings.read path with
    | .error problem => some (.settings path (.unreadable problem))
    | .ok text =>
      match Settings.ofYaml text with
      | .error fault => some (.settings path fault)
      | .ok _ => none

/-- How the language of the source file fails to be known. -/
def languageFailure? (invocation : Invocation) : Option Failure :=
  match invocation.language?, invocation.language with
  | some _, _ => none
  | none, some name => some (.unsupportedLanguage name)
  | none, none => some (.unknownLanguage invocation.file)

/-- How the source file fails to be read. -/
def sourceFailure? (invocation : Invocation) (surroundings : Surroundings) : Option Failure :=
  match surroundings.read invocation.file with
  | .error problem => some (.unreadable invocation.file problem)
  | .ok _ => none

/-- **The failure of the first stage that fails**, in the order settings,
language, file. -/
def firstFailure? (invocation : Invocation) (surroundings : Surroundings) : Option Failure :=
  (invocation.settingsFailure? surroundings).or
    (invocation.languageFailure?.or (invocation.sourceFailure? surroundings))

variable {invocation : Invocation} {surroundings : Surroundings}

/-! ## Loading the settings -/

theorem settingsFailure?_eq_none_iff :
    invocation.settingsFailure? surroundings = none ↔
      ∃ settings, invocation.Loads surroundings settings := by
  unfold settingsFailure? Loads
  cases invocation.settingsPath with
  | none => simp
  | some path =>
    dsimp only
    cases surroundings.read path with
    | error problem => simp
    | ok text => cases loaded : Settings.ofYaml text <;> simp [loaded]

theorem settings_of_failure {failure : Failure}
    (failed : invocation.settingsFailure? surroundings = some failure) :
    invocation.settings surroundings = .error failure := by
  unfold settingsFailure? at failed
  unfold Invocation.settings
  cases asked : invocation.settingsPath with
  | none => simp [asked] at failed
  | some path =>
    simp only [asked] at failed ⊢
    cases read : surroundings.read path with
    | error problem => simpa [read] using failed
    | ok text =>
      simp only [read] at failed ⊢
      cases loaded : Settings.ofYaml text with
      | error fault => simpa [loaded] using failed
      | ok settings => simp [loaded] at failed

theorem settings_of_loads {settings : Settings}
    (loads : invocation.Loads surroundings settings) :
    invocation.settings surroundings = .ok settings := by
  unfold Loads at loads
  unfold Invocation.settings
  cases asked : invocation.settingsPath with
  | none =>
    simp only [asked] at loads
    rw [loads]
  | some path =>
    simp only [asked] at loads
    obtain ⟨text, read, loaded⟩ := loads
    simp only [read, loaded]

/-! ## Choosing the language -/

theorem languageFailure?_eq_none_iff :
    invocation.languageFailure? = none ↔ ∃ language, invocation.language? = some language := by
  unfold languageFailure?
  cases invocation.language? <;> cases invocation.language <;> simp

theorem analyzer_of_failure {settings : Settings} {failure : Failure}
    (failed : invocation.languageFailure? = some failure) :
    (invocation.analyzer surroundings settings).value = .error failure := by
  unfold languageFailure? language? at failed
  unfold analyzer
  cases asked : invocation.language with
  | some name =>
    simp only [asked, Parsers.analyzerNamed] at failed ⊢
    cases known : Language.named? name with
    | none => simpa [known] using failed
    | some language => simp [known] at failed
  | none =>
    simp only [asked, Parsers.analyzerForPath] at failed ⊢
    cases known : Language.ofPath? invocation.file with
    | none => simpa [known] using failed
    | some language => simp [known] at failed

theorem analyzer_of_language {settings : Settings} {language : Language}
    (known : invocation.language? = some language) :
    (invocation.analyzer surroundings settings).value =
      .ok (surroundings.parsers.analyzer settings language) := by
  unfold language? at known
  unfold analyzer
  cases asked : invocation.language with
  | some name =>
    simp only [asked] at known
    simp only [Parsers.analyzerNamed, known]
  | none =>
    simp only [asked] at known
    simp only [Parsers.analyzerForPath, known]

/-! ## Reading the file -/

theorem sourceFailure?_eq_none_iff :
    invocation.sourceFailure? surroundings = none ↔
      ∃ text, surroundings.read invocation.file = .ok text := by
  unfold sourceFailure?
  cases surroundings.read invocation.file <;> simp

theorem source_of_failure {failure : Failure}
    (failed : invocation.sourceFailure? surroundings = some failure) :
    invocation.source surroundings = .error failure := by
  unfold sourceFailure? at failed
  unfold source
  cases read : surroundings.read invocation.file with
  | error problem => simpa [read] using failed
  | ok text => simp [read] at failed

theorem source_of_read {text : String} (read : surroundings.read invocation.file = .ok text) :
    invocation.source surroundings = .ok text := by
  unfold source
  rw [read]

/-! ## A whole run -/

/-- No stage fails exactly when each gives something. -/
theorem firstFailure?_eq_none_iff :
    invocation.firstFailure? surroundings = none ↔
      (∃ settings, invocation.Loads surroundings settings) ∧
        (∃ language, invocation.language? = some language) ∧
        ∃ text, surroundings.read invocation.file = .ok text := by
  simp only [firstFailure?, Option.or_eq_none_iff, settingsFailure?_eq_none_iff,
    languageFailure?_eq_none_iff, sourceFailure?_eq_none_iff]

/-- **A run fails as its first failing stage does.** -/
theorem run_result_of_failure {failure : Failure}
    (failed : invocation.firstFailure? surroundings = some failure) :
    (invocation.run surroundings).result = .error failure := by
  unfold firstFailure? at failed
  unfold run
  cases loading : invocation.settingsFailure? surroundings with
  | some first =>
    rw [loading, Option.some_or] at failed
    cases failed
    rw [settings_of_failure loading]
  | none =>
    obtain ⟨settings, loads⟩ := settingsFailure?_eq_none_iff.mp loading
    rw [loading, Option.none_or] at failed
    rw [settings_of_loads loads]
    cases choosing : invocation.languageFailure? with
    | some second =>
      rw [choosing, Option.some_or] at failed
      cases failed
      simp only [analyzer_of_failure choosing]
    | none =>
      obtain ⟨language, known⟩ := languageFailure?_eq_none_iff.mp choosing
      rw [choosing, Option.none_or] at failed
      simp only [analyzer_of_language known, source_of_failure failed]

/-- **A run whose stages all succeed gives the answer of the analyzer** for the
language under the settings. -/
theorem run_result_of_ready {settings : Settings} {language : Language} {text : String}
    (loads : invocation.Loads surroundings settings)
    (known : invocation.language? = some language)
    (read : surroundings.read invocation.file = .ok text) :
    (invocation.run surroundings).result =
      (invocation.answer
        (surroundings.parsers.analyzer (invocation.adjusted settings) language) text).value := by
  unfold run
  rw [settings_of_loads loads]
  simp only [analyzer_of_language known, source_of_read read]

end Invocation

end Enclosure.Command
