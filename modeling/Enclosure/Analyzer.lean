import Enclosure.Checker
import Enclosure.Selection

/-!
# Answering questions about a source text

An analyzer joins a grammar, which turns texts into trees, with a selection,
which says what a structural unit is. It answers three questions about a text:
which unit encloses two lines, whether the text is valid, and where its syntax
errors are. A lookup never fails: a pair of numbers that names no range and a
text that cannot be parsed are logged and answered with nothing.
-/

set_option autoImplicit false

namespace Enclosure

/-- A language that can be parsed: its name, the kinds that are structural in
it, the kind reserved for errors, and its parser. -/
structure Grammar where
  language : String
  kinds : KindSet
  errorKind : String := Checker.standardErrorKind
  parse : String → Except Fault Tree

/-- A grammar and what to select in its trees. -/
structure Analyzer where
  grammar : Grammar
  selection : Selection

namespace Analyzer

/-- The analyzer that selects the structural kinds of its grammar. -/
def ofGrammar (grammar : Grammar) : Analyzer := ⟨grammar, .ofKinds grammar.kinds⟩

/-- The checker for the trees of the grammar. -/
def checker (analyzer : Analyzer) : Checker :=
  ⟨analyzer.grammar.language, analyzer.grammar.errorKind⟩

/-- The record of a pair of lines that names no range. -/
def skippedRecord (fault : Fault) : LogRecord :=
  ⟨.warn, .analyzer, s!"Skipping enclosing context lookup: {fault.message}"⟩

/-- The record of a text that cannot be parsed. -/
def unparsedRecord (language : String) (fault : Fault) : LogRecord :=
  ⟨.warn, .analyzer, s!"Error parsing {language} source: {fault.message}"⟩

/-- The record of a range that no unit encloses. -/
def nothingRecord (language : String) (range : LineRange) : LogRecord :=
  ⟨.debug, .analyzer,
    s!"No enclosing context for lines {range.first}-{range.last} in {language} source"⟩

/-- **The structural unit of a source text that encloses two lines.** -/
def find (analyzer : Analyzer) (source : String) (first last : UInt64) : Observed Finding :=
  match LineRange.ofLines first last with
  | .error fault => { value := .nothing, log := [skippedRecord fault] }
  | .ok range =>
    match analyzer.grammar.parse source with
    | .error fault =>
      { value := .nothing
        log := [unparsedRecord analyzer.grammar.language fault]
        parses := 1 }
    | .ok tree =>
      let found := analyzer.selection.resolve tree range
      { value := ⟨found.value⟩
        log := found.log ++
          match found.value with
          | none => [nothingRecord analyzer.grammar.language range]
          | some _ => []
        parses := 1
        fetched := found.fetched }

/-- **The verdict on a source text.** -/
def dryRun (analyzer : Analyzer) (source : String) : Observed Verdict :=
  match analyzer.grammar.parse source with
  | .error fault => { value := .refused fault.message, parses := 1 }
  | .ok tree => { analyzer.checker.check tree with parses := 1 }

/-- Parse a source text once and look at its tree. -/
def inspect {α : Type} (analyzer : Analyzer) (source : String) (look : Tree → Observed α) :
    Observed (Except Fault α) :=
  match analyzer.grammar.parse source with
  | .error fault => { value := .error fault, parses := 1 }
  | .ok tree =>
    let seen := look tree
    { value := .ok seen.value, log := seen.log, parses := 1, fetched := seen.fetched }

/-- **The sites of all syntax errors of a source text.** -/
def syntaxErrors (analyzer : Analyzer) (source : String) :
    Observed (Except Fault (List ErrorSite)) :=
  analyzer.inspect source analyzer.checker.errors

/-- The structural unit of a source text that encloses two lines, with faults
reported and not logged. -/
def resolve (analyzer : Analyzer) (source : String) (first last : UInt64) :
    Observed (Except Fault (Option StructuralUnit)) :=
  match LineRange.ofLines first last with
  | .error fault => { value := .error fault }
  | .ok range => analyzer.inspect source (analyzer.selection.resolve · range)

end Analyzer

end Enclosure
