import Enclosure.Yaml.Problem

/-!
# What can go wrong

Every failure of the library is a value of `Fault`; its wording is in
`Fault.message` and nowhere else. Two of the causes have causes of their own:
a settings text can be refused for several reasons (`SettingsProblem`), and a
file can be unreadable for several reasons (`ReadProblem`).
-/

set_option autoImplicit false

namespace Enclosure

/-- Why a settings text, or one of its parts, is refused. -/
inductive SettingsProblem where
  /-- The text is not well-formed, or does not have the shape of settings. -/
  | malformed (problem : Yaml.Problem)
  /-- A selection policy has a name that no policy has. -/
  | unknownPolicy (name : String)
  /-- An override is given for a language that is not built in. -/
  | unknownLanguage (name : String)
  /-- Two overrides name the same language. -/
  | configuredTwice (language earlier later : String)
deriving DecidableEq

/-- The wording of a settings problem. -/
def SettingsProblem.message : SettingsProblem → String
  | malformed problem => problem.message
  | unknownPolicy name =>
    s!"unknown selection policy '{name}', expected 'outermost' or 'innermost'"
  | unknownLanguage name => s!"unknown language '{name}' in configuration"
  | configuredTwice language earlier later =>
    s!"language '{language}' is configured twice, as '{earlier}' and '{later}'"

/-- Why a file cannot be read as text. -/
inductive ReadProblem where
  | missing
  | notADirectory
  | isADirectory
  | nameTooLong
  | notText
  /-- Any other refusal of the system, in the system's words. -/
  | refused (message : String)
deriving DecidableEq

/-- The wording of a read problem. -/
def ReadProblem.message : ReadProblem → String
  | missing => "No such file or directory (os error 2)"
  | notADirectory => "Not a directory (os error 20)"
  | isADirectory => "Is a directory (os error 21)"
  | nameTooLong => "File name too long (os error 36)"
  | notText => "stream did not contain valid UTF-8"
  | refused message => message

/-- A failure of the library. -/
inductive Fault where
  /-- The grammar of a language could not parse a source text. -/
  | parse (language message : String)
  /-- No language has this name. -/
  | unsupportedLanguage (language : String)
  /-- Two numbers do not name a range of lines. -/
  | invalidRange (first last : UInt64)
  /-- A settings text is refused. -/
  | settings (problem : SettingsProblem)
  /-- A file cannot be read. -/
  | unreadable (problem : ReadProblem)
deriving DecidableEq

/-- The wording of a fault. -/
def Fault.message : Fault → String
  | parse language message => s!"Failed to parse {language} source: {message}"
  | unsupportedLanguage language => s!"Language '{language}' is not supported"
  | invalidRange first last =>
    s!"Invalid line interval {first}..={last}: lines are 1-based and start must not exceed end"
  | settings problem => s!"Invalid configuration: {problem.message}"
  | unreadable problem => s!"IO error: {problem.message}"

end Enclosure
