import Enclosure.Catalog
import Enclosure.Codec
import Enclosure.Command.Arguments
import Enclosure.Command.Failure
import Enclosure.Settings.Description
import Enclosure.Settings.Yaml
import Enclosure.Value.Json
import Enclosure.Value.Yaml

/-!
# Running a command

A command goes through four stages: it loads the settings, chooses an analyzer
by the language asked for or by the file's name, reads the file, and analyzes
it. The first stage that fails ends the run. What a run leaves behind is a
report: the log records, and a failure or an answer. A report is printed as a
transcript: an exit code and the texts of the two output streams.

Files and parsers come from outside (`Surroundings`), so a run is a function.
-/

set_option autoImplicit false

namespace Enclosure.Command

/-- What a run can use: the texts of files, and parsers. -/
structure Surroundings where
  read : String → Except ReadProblem String
  parsers : Parsers

/-- Print data in a format. -/
def Format.render : Format → Value → String
  | json, value => value.json
  | yaml, value => value.yaml

/-- The answer of a run: what it prints, and whether all is well. -/
structure Answer where
  text : String
  valid : Bool

/-- What a run leaves behind. -/
structure Report where
  log : List LogRecord
  result : Except Failure Answer

namespace Invocation

/-- Load the settings. -/
def settings (invocation : Invocation) (surroundings : Surroundings) : Except Failure Settings :=
  match invocation.settingsPath with
  | none => .ok {}
  | some path =>
    match surroundings.read path with
    | .error problem => .error (.settings path (.unreadable problem))
    | .ok text =>
      match Settings.ofYaml text with
      | .error fault => .error (.settings path fault)
      | .ok settings => .ok settings

/-- The settings with the policy that the action asks for. -/
def adjusted (invocation : Invocation) (settings : Settings) : Settings :=
  match invocation.action with
  | .find _ _ (some policy) => settings.withPolicy policy
  | .find _ _ none | .check _ => settings

/-- Choose an analyzer, by the language asked for or by the name of the file. -/
def analyzer (invocation : Invocation) (surroundings : Surroundings) (settings : Settings) :
    Observed (Except Failure Analyzer) :=
  match invocation.language with
  | some language =>
    let chosen := surroundings.parsers.analyzerNamed settings language
    { value :=
        match chosen.value with
        | some analyzer => .ok analyzer
        | none => .error (.unsupportedLanguage language)
      log := chosen.log }
  | none =>
    let chosen := surroundings.parsers.analyzerForPath settings invocation.file
    { value :=
        match chosen.value with
        | some analyzer => .ok analyzer
        | none => .error (.unknownLanguage invocation.file)
      log := chosen.log }

/-- Read the source file. -/
def source (invocation : Invocation) (surroundings : Surroundings) : Except Failure String :=
  match surroundings.read invocation.file with
  | .error problem => .error (.unreadable invocation.file problem)
  | .ok text => .ok text

/-- Analyze the source text. -/
def answer (invocation : Invocation) (analyzer : Analyzer) (source : String) :
    Observed (Except Failure Answer) :=
  match invocation.action with
  | .find first last _ =>
    let finding := analyzer.find source first last
    { value := .ok ⟨invocation.format.render finding.value.toValue, true⟩, log := finding.log }
  | .check false =>
    let verdict := (analyzer.dryRun source).value
    { value := .ok ⟨invocation.format.render verdict.toValue, verdict.valid⟩ }
  | .check true =>
    { value :=
        match (analyzer.syntaxErrors source).value with
        | .error fault => .error (.analysis fault)
        | .ok sites =>
          .ok ⟨invocation.format.render (ErrorSite.listToValue sites), sites.isEmpty⟩ }

/-- The record of the settings in use. -/
def settingsRecord (settings : Settings) : LogRecord :=
  ⟨.debug, .program, s!"Using configuration: {settings.shown}"⟩

/-- The record of the language in which a file is analyzed. -/
def languageRecord (file : String) (analyzer : Analyzer) : LogRecord :=
  ⟨.debug, .command, s!"Analyzing '{file}' as {analyzer.grammar.language}"⟩

/-- **Run a command.** -/
def run (invocation : Invocation) (surroundings : Surroundings) : Report :=
  match invocation.settings surroundings with
  | .error failure => ⟨[], .error failure⟩
  | .ok settings =>
    let chosen := invocation.analyzer surroundings (invocation.adjusted settings)
    let log := settingsRecord settings :: chosen.log
    match chosen.value with
    | .error failure => ⟨log, .error failure⟩
    | .ok analyzer =>
      let log := log ++ [languageRecord invocation.file analyzer]
      match invocation.source surroundings with
      | .error failure => ⟨log, .error failure⟩
      | .ok source =>
        let answer := invocation.answer analyzer source
        ⟨log ++ answer.log, answer.value⟩

end Invocation

/-- What a finished program leaves behind: an exit code, and what it wrote to its
two output streams. -/
structure Transcript where
  code : UInt32
  output : String
  errors : String
deriving DecidableEq

namespace Report

/-- The exit code of a run: zero when it finished and all is well. -/
def code (report : Report) : UInt32 :=
  match report.result with
  | .error _ => 1
  | .ok answer => if answer.valid then 0 else 1

/-- What a run prints: the answer and a line break, or nothing. -/
def output (report : Report) : String :=
  match report.result with
  | .error _ => ""
  | .ok answer => answer.text ++ "\n"

/-- What a run complains about. -/
def complaint (report : Report) : String :=
  match report.result with
  | .error failure => failure.message
  | .ok _ => ""

/-- The transcript of a run; the log is part of it when it was asked for. -/
def transcript (report : Report) (verbose : Bool) : Transcript where
  code := report.code
  output := report.output
  errors :=
    (if verbose then String.join (report.log.map LogRecord.line) else "") ++ report.complaint

end Report

/-- The name and version of the program. -/
def versionLine : String := "enclosing-context 0.1.0\n"

/-- A summary of the commands. -/
def helpText : String :=
  "\n".intercalate [
    "Find the function or class enclosing a line range, and check sources for syntax errors",
    "",
    "Usage: enclosing-context [--verbose] [--config <FILE>] <COMMAND>",
    "",
    "Commands:",
    "  find <FILE> --start <LINE> [--end <LINE>] [--language <NAME>]",
    "       [--policy outermost|innermost] [--format json|yaml]",
    "  check <FILE> [--all] [--language <NAME>] [--format json|yaml]",
    ""]

/-- **What a request leaves behind.** -/
def Request.transcript (request : Request) (surroundings : Surroundings) : Transcript :=
  match request with
  | .version => ⟨0, versionLine, ""⟩
  | .help => ⟨0, helpText, ""⟩
  | .misuse => ⟨2, "", helpText⟩
  | .run invocation => (invocation.run surroundings).transcript invocation.verbose

end Enclosure.Command
