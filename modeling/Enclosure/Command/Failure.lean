import Enclosure.Fault
import Enclosure.Log

/-!
# Why a command fails

A failed command says what it could not do and why. The reasons form a chain: a
single one is indented below the headline; several are numbered, outermost
first.
-/

set_option autoImplicit false

namespace Enclosure.Command

/-- Why a command that was started could not finish. -/
inductive Failure where
  /-- The settings could not be loaded. -/
  | settings (path : String) (fault : Fault)
  /-- The language asked for is not built in. -/
  | unsupportedLanguage (language : String)
  /-- The language of the file is not evident from its name. -/
  | unknownLanguage (file : String)
  /-- The source file could not be read. -/
  | unreadable (file : String) (problem : ReadProblem)
  /-- The source text could not be analyzed. -/
  | analysis (fault : Fault)
deriving DecidableEq

namespace Failure

/-- What could not be done. -/
def headline : Failure → String
  | settings path _ => s!"Failed to load configuration '{path}'"
  | unsupportedLanguage language => s!"Unsupported language: {language}"
  | unknownLanguage file => s!"Cannot infer the language of '{file}', pass --language"
  | unreadable file _ => s!"Failed to read '{file}'"
  | analysis fault => fault.message

/-- Why it could not be done, outermost reason first. A fault that wraps a read
problem is followed by the problem itself. -/
def causes : Failure → List String
  | settings _ (.unreadable problem) => [Fault.message (.unreadable problem), problem.message]
  | settings _ fault => [fault.message]
  | unreadable _ problem => [problem.message]
  | unsupportedLanguage _ | unknownLanguage _ | analysis _ => []

/-- A reason with its number, aligned to the right of five columns. -/
def numbered (reason : String) (number : Nat) : String :=
  let digits := toString number
  let padding := String.ofList (List.replicate (5 - digits.length) ' ')
  s!"{padding}{digits}: {LogRecord.indentBreaks 7 reason}"

/-- The reasons as lines below the headline. -/
def reasons : List String → String
  | [] => ""
  | [reason] => s!"\n\nCaused by:\n    {LogRecord.indentBreaks 4 reason}"
  | several =>
    "\n\nCaused by:" ++ String.join (several.zipIdx.map fun (reason, number) =>
      "\n" ++ numbered reason number)

/-- **The message of a failure.** -/
def message (failure : Failure) : String :=
  s!"Error: {failure.headline}{reasons failure.causes}\n"

end Failure

end Enclosure.Command
