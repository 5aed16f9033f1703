import Enclosure.Settings

/-!
# Analyzers for the built-in languages

The parsers of the languages come from outside; everything else about an
analyzer follows from the language and the settings. A language is chosen by
its name or by the path of a file, and a choice that fails is logged.
-/

set_option autoImplicit false

namespace Enclosure

/-- A parser for every built-in language. -/
abbrev Parsers := Language → String → Except Fault Tree

namespace Parsers

/-- The analyzer of a language under the settings. -/
def analyzer (parsers : Parsers) (settings : Settings) (language : Language) : Analyzer :=
  ⟨language.grammar (parsers language), settings.selectionFor language⟩

/-- The analyzer of the language called by a name. -/
def analyzerNamed (parsers : Parsers) (settings : Settings) (name : String) :
    Observed (Option Analyzer) :=
  match Language.named? name with
  | some language => { value := some (parsers.analyzer settings language) }
  | none =>
    { value := none
      log := [⟨.debug, .catalog, s!"No grammar available for language: {name}"⟩] }

/-- The analyzer of the language of a file. -/
def analyzerForPath (parsers : Parsers) (settings : Settings) (path : String) :
    Observed (Option Analyzer) :=
  match Language.ofPath? path with
  | some language => { value := some (parsers.analyzer settings language) }
  | none =>
    { value := none
      log := [⟨.debug, .catalog, s!"No grammar available for file: {path}"⟩] }

end Parsers

end Enclosure
