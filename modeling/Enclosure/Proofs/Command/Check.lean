import Enclosure.Proofs.Checker.Agreement
import Enclosure.Proofs.Command.Stages

/-!
# What a check leaves behind

A check of the first error and a check of all errors are answered in different
ways. A text that cannot be parsed is a printed verdict for the one and a failure
of the run for the other, and the exit code comes from the verdict in the one
case and from the length of a list in the other. Yet the exit code is the same,
and it is zero exactly when every stage of the run succeeds and the tree of the
text has no marks of errors (`Invocation.code_checking_eq_zero_iff`).

The settings take part in a check only by loading: the answer of an analyzer to a
check depends on its grammar and not on its selection
(`Invocation.answer_checking`), so settings that load give the same result
whatever they hold (`Invocation.result_checking_configured`).
-/

set_option autoImplicit false

namespace Enclosure.Command

/-! ## Exit codes and transcripts -/

/-- The transcript reports a failure; only a log that was asked for stands before
it. -/
def Transcript.Reports (transcript : Transcript) (verbose : Bool) (failure : Failure) : Prop :=
  ∃ log, transcript.errors = log ++ failure.message ∧ (verbose = false → log = "")

/-- The transcript prints data, as JSON or as YAML, and a line break. -/
def Transcript.Prints (transcript : Transcript) (format : Format) (value : Value) : Prop :=
  match format with
  | .json => transcript.output = value.json ++ "\n"
  | .yaml => transcript.output = value.yaml ++ "\n"

namespace Report

variable {report : Report}

theorem code_eq_zero_iff :
    report.code = 0 ↔ ∃ answer, report.result = .ok answer ∧ answer.valid = true := by
  unfold code
  cases report.result with
  | error failure => simp
  | ok answer => cases valid : answer.valid <;> simp [valid]

theorem code_eq_one_iff : report.code = 1 ↔ report.code ≠ 0 := by
  unfold code
  cases report.result with
  | error failure => simp
  | ok answer => cases answer.valid <;> simp

theorem output_of_error {failure : Failure} (failed : report.result = .error failure) :
    report.output = "" := by
  unfold output
  rw [failed]

theorem output_of_ok {answer : Answer} (finished : report.result = .ok answer) :
    report.output = answer.text ++ "\n" := by
  unfold output
  rw [finished]

/-- The answer of a run is printed in its format. -/
theorem transcript_prints {format : Format} {value : Value} {valid : Bool}
    (finished : report.result = .ok ⟨format.render value, valid⟩) (verbose : Bool) :
    (report.transcript verbose).Prints format value := by
  have printed := output_of_ok finished
  cases format with
  | json => exact printed
  | yaml => exact printed

/-- A failed run is reported. -/
theorem transcript_reports {failure : Failure} (failed : report.result = .error failure)
    (verbose : Bool) : (report.transcript verbose).Reports verbose failure := by
  refine ⟨if verbose then String.join (report.log.map LogRecord.line) else "", ?_, ?_⟩
  · simp only [transcript, complaint, failed]
  · intro quiet
    rw [quiet]
    rfl

end Report

/-! ## Checks of one file -/

namespace Invocation

/-- The invocation, asking for a check of the first error or of all errors. -/
def checking (invocation : Invocation) (all : Bool) : Invocation :=
  { invocation with action := .check all }

/-- The invocation, asking for settings at another path. -/
def configured (invocation : Invocation) (settingsPath : Option String) : Invocation :=
  { invocation with settingsPath := settingsPath }

/-- What a check leaves behind. -/
def checkTranscript (invocation : Invocation) (surroundings : Surroundings) (all : Bool) :
    Transcript :=
  (Request.run (invocation.checking all)).transcript surroundings

/-- **All is well with a source file**: the settings load, the language is known,
the file is read and parsed, and no node of its tree is missing or of the error
kind. -/
def Passes (invocation : Invocation) (surroundings : Surroundings) : Prop :=
  ∃ settings language text tree,
    invocation.Loads surroundings settings ∧
      invocation.language? = some language ∧
      surroundings.read invocation.file = .ok text ∧
      surroundings.parsers language text = .ok tree ∧
      ∀ node ∈ tree.preorder, node.missing = false ∧
        node.kind ≠ (language.grammar (surroundings.parsers language)).errorKind

variable {invocation : Invocation} {surroundings : Surroundings}

/-- The answer to a check, by what the analyzer says about the text. -/
theorem answer_checking (analyzer : Analyzer) (source : String) (all : Bool) :
    ((invocation.checking all).answer analyzer source).value =
      match all, (analyzer.syntaxErrors source).value with
      | false, _ =>
        .ok ⟨invocation.format.render (analyzer.dryRun source).value.toValue,
          (analyzer.dryRun source).value.valid⟩
      | true, .error fault => .error (.analysis fault)
      | true, .ok sites =>
        .ok ⟨invocation.format.render (ErrorSite.listToValue sites), sites.isEmpty⟩ := by
  cases all with
  | false => rfl
  | true =>
    simp only [answer, checking]
    cases (analyzer.syntaxErrors source).value <;> rfl

/-- An answer to a check says that all is well exactly when there are no syntax
errors, in both modes. -/
theorem answer_checking_valid_iff (analyzer : Analyzer) (source : String) (all : Bool) :
    (∃ answer, ((invocation.checking all).answer analyzer source).value = .ok answer ∧
        answer.valid = true) ↔
      (analyzer.syntaxErrors source).value = .ok [] := by
  rw [answer_checking]
  cases all with
  | false =>
    rw [← Analyzer.dryRun_valid_iff]
    simp
  | true => rcases (analyzer.syntaxErrors source).value with fault | _ | ⟨site, rest⟩ <;> simp

/-- The result of a check whose stages all succeed. -/
theorem result_checking {settings : Settings} {language : Language} {text : String}
    (loads : invocation.Loads surroundings settings)
    (known : invocation.language? = some language)
    (read : surroundings.read invocation.file = .ok text) (all : Bool) :
    ((invocation.checking all).run surroundings).result =
      ((invocation.checking all).answer
        (surroundings.parsers.analyzer settings language) text).value :=
  run_result_of_ready loads known read

/-- The result of a check with a stage that fails. -/
theorem result_checking_of_failure {failure : Failure}
    (failed : invocation.firstFailure? surroundings = some failure) (all : Bool) :
    ((invocation.checking all).run surroundings).result = .error failure :=
  run_result_of_failure failed

variable (invocation surroundings) in
/-- **A check exits with code zero exactly when all is well**, in both modes. -/
theorem code_checking_eq_zero_iff (all : Bool) :
    ((invocation.checking all).run surroundings).code = 0 ↔ invocation.Passes surroundings := by
  rw [Report.code_eq_zero_iff]
  cases stage : invocation.firstFailure? surroundings with
  | some failure =>
    rw [result_checking_of_failure stage]
    constructor
    · rintro ⟨answer, impossible, -⟩
      cases impossible
    · rintro ⟨settings, language, text, tree, loads, known, read, -⟩
      have none := firstFailure?_eq_none_iff.mpr ⟨⟨_, loads⟩, ⟨_, known⟩, ⟨_, read⟩⟩
      rw [stage] at none
      cases none
  | none =>
    obtain ⟨⟨settings, loads⟩, ⟨language, known⟩, ⟨text, read⟩⟩ :=
      firstFailure?_eq_none_iff.mp stage
    rw [result_checking loads known read, answer_checking_valid_iff,
      Analyzer.syntaxErrors_eq_nil_iff]
    constructor
    · rintro ⟨tree, parsed, clean⟩
      exact ⟨settings, language, text, tree, loads, known, read, parsed, clean⟩
    · rintro ⟨_, _, _, tree, -, known', read', parsed, clean⟩
      cases known.symm.trans known'
      cases read.symm.trans read'
      exact ⟨tree, parsed, clean⟩

variable (invocation surroundings) in
/-- The exit code is the same in both modes: it is zero or one, and zero in one
mode when it is in the other. -/
theorem code_checking_true :
    ((invocation.checking true).run surroundings).code =
      ((invocation.checking false).run surroundings).code := by
  have together := (code_checking_eq_zero_iff invocation surroundings true).trans
    (code_checking_eq_zero_iff invocation surroundings false).symm
  by_cases zero : ((invocation.checking true).run surroundings).code = 0
  · exact zero.trans (together.mp zero).symm
  · exact (Report.code_eq_one_iff.mpr zero).trans
      (Report.code_eq_one_iff.mpr (mt together.mpr zero)).symm

/-- **Settings that load do not matter to a check**, whatever they hold. -/
theorem result_checking_configured {settingsPath : Option String} {elsewhere : Surroundings}
    {settings others : Settings} (loads : invocation.Loads surroundings settings)
    (othersLoad : (invocation.configured settingsPath).Loads elsewhere others)
    (sameParsers : elsewhere.parsers = surroundings.parsers)
    (sameFile : elsewhere.read invocation.file = surroundings.read invocation.file)
    (all : Bool) :
    (((invocation.configured settingsPath).checking all).run elsewhere).result =
      ((invocation.checking all).run surroundings).result := by
  have here : invocation.settingsFailure? surroundings = none :=
    settingsFailure?_eq_none_iff.mpr ⟨settings, loads⟩
  have there : (invocation.configured settingsPath).settingsFailure? elsewhere = none :=
    settingsFailure?_eq_none_iff.mpr ⟨others, othersLoad⟩
  have same : (invocation.configured settingsPath).firstFailure? elsewhere =
      invocation.firstFailure? surroundings := by
    unfold firstFailure?
    rw [here, there]
    simp only [sourceFailure?]
    rw [show (invocation.configured settingsPath).file = invocation.file from rfl, sameFile]
    rfl
  cases stage : invocation.firstFailure? surroundings with
  | some failure =>
    rw [stage] at same
    rw [result_checking_of_failure stage, result_checking_of_failure same]
  | none =>
    obtain ⟨-, ⟨language, known⟩, ⟨text, read⟩⟩ := firstFailure?_eq_none_iff.mp stage
    have readThere : elsewhere.read (invocation.configured settingsPath).file = .ok text :=
      sameFile.trans read
    rw [result_checking loads known read, result_checking othersLoad known readThere,
      answer_checking, answer_checking]
    -- Both analyzers have the grammar of the language, and a check uses nothing else.
    rw [sameParsers]
    rfl

/-- **What a check leaves behind.** For every invocation, every file and every
parser:

* the exit code is zero exactly when all is well, and else one; it is the same in
  both modes;
* when a stage fails, nothing is printed and the failure of the first such stage
  is reported, in both modes;
* when all stages succeed, the check of the first error prints its verdict, as JSON
  or YAML and with a line break, also on a text that cannot be parsed; the check of
  all errors prints the list of their sites in the same way, but prints nothing and
  reports the fault when the text cannot be parsed;
* whatever else the settings hold, only that they load matters to the exit code,
  to what is printed and to what is reported. -/
theorem checkTranscript_spec (invocation : Invocation) (surroundings : Surroundings) :
    (∀ all,
      ((invocation.checkTranscript surroundings all).code = 0 ↔
          invocation.Passes surroundings) ∧
        ((invocation.checkTranscript surroundings all).code = 1 ↔
          ¬ invocation.Passes surroundings)) ∧
      (invocation.checkTranscript surroundings true).code =
        (invocation.checkTranscript surroundings false).code ∧
      (∀ failure, invocation.firstFailure? surroundings = some failure → ∀ all,
        (invocation.checkTranscript surroundings all).output = "" ∧
          (invocation.checkTranscript surroundings all).Reports invocation.verbose failure) ∧
      (∀ settings language text, invocation.Loads surroundings settings →
        invocation.language? = some language →
        surroundings.read invocation.file = .ok text →
        let analyzer := surroundings.parsers.analyzer settings language
        (invocation.checkTranscript surroundings false).Prints invocation.format
            (analyzer.dryRun text).value.toValue ∧
          (∀ sites, (analyzer.syntaxErrors text).value = .ok sites →
            (invocation.checkTranscript surroundings true).Prints invocation.format
              (ErrorSite.listToValue sites)) ∧
          (∀ fault, surroundings.parsers language text = .error fault →
            (invocation.checkTranscript surroundings true).output = "" ∧
              (invocation.checkTranscript surroundings true).Reports invocation.verbose
                (.analysis fault))) ∧
      (∀ settingsPath elsewhere settings others, invocation.Loads surroundings settings →
        (invocation.configured settingsPath).Loads elsewhere others →
        elsewhere.parsers = surroundings.parsers →
        elsewhere.read invocation.file = surroundings.read invocation.file → ∀ all,
        ((invocation.configured settingsPath).checkTranscript elsewhere all).code =
            (invocation.checkTranscript surroundings all).code ∧
          ((invocation.configured settingsPath).checkTranscript elsewhere all).output =
            (invocation.checkTranscript surroundings all).output ∧
          (((invocation.configured settingsPath).checking all).run elsewhere).complaint =
            ((invocation.checking all).run surroundings).complaint) := by
  refine ⟨fun all => ?_, code_checking_true invocation surroundings, ?_, ?_, ?_⟩
  · have zero := code_checking_eq_zero_iff invocation surroundings all
    exact ⟨zero, Report.code_eq_one_iff.trans (not_congr zero)⟩
  · intro failure failed all
    have result := result_checking_of_failure failed all
    exact ⟨Report.output_of_error result, Report.transcript_reports result invocation.verbose⟩
  · intro settings language text loads known read analyzer
    have result := result_checking loads known read
    refine ⟨?_, ?_, ?_⟩
    · have answered := (result false).trans (answer_checking analyzer text false)
      exact Report.transcript_prints answered invocation.verbose
    · intro sites listed
      have answered := (result true).trans (answer_checking analyzer text true)
      simp only [analyzer, listed] at answered
      exact Report.transcript_prints answered invocation.verbose
    · intro fault refused
      have answered := (result true).trans (answer_checking analyzer text true)
      have listed := (analyzer.syntaxErrors_eq_error_iff text fault).mpr refused
      simp only [analyzer, listed] at answered
      exact ⟨Report.output_of_error answered,
        Report.transcript_reports answered invocation.verbose⟩
  · intro settingsPath elsewhere settings others loads othersLoad sameParsers sameFile all
    have same := result_checking_configured loads othersLoad sameParsers sameFile all
    refine ⟨?_, ?_, ?_⟩
    · show Report.code _ = Report.code _
      unfold Report.code
      rw [same]
    · show Report.output _ = Report.output _
      unfold Report.output
      rw [same]
    · unfold Report.complaint
      rw [same]

end Invocation

end Enclosure.Command
