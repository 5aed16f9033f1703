import Enclosure.Text.Terminal

/-!
# Log records

The library explains itself by log records. Records are data: an operation
returns them together with its result, and only the command line writes them
out.
-/

set_option autoImplicit false

namespace Enclosure

/-- How important a log record is. -/
inductive Level where
  | debug
  | warn
deriving DecidableEq

/-- The name of a level. -/
def Level.name : Level → String
  | debug => "DEBUG"
  | warn => "WARN"

/-- The part of the program that makes a log record. -/
inductive Component where
  | resolver
  | analyzer
  | catalog
  | command
  | program
deriving DecidableEq

/-- The label of a component in log lines. -/
def Component.label : Component → String
  | resolver => "context_core::resolver"
  | analyzer => "context_core::analyzer"
  | catalog => "context_languages::factory"
  | command => "enclosing_context::commands"
  | program => "enclosing_context"

/-- A log record. -/
structure LogRecord where
  level : Level
  component : Component
  message : String
deriving DecidableEq

namespace LogRecord

/-- Level and message. -/
def summary (record : LogRecord) : String := s!"{record.level.name} {record.message}"

/-- Put spaces after every line break, so that a message of several lines stays
visibly one message. -/
def indentBreaks (spaces : Nat) (text : String) : String :=
  String.ofList (text.toList.flatMap fun c =>
    if c = '\n' then '\n' :: List.replicate spaces ' ' else [c])

/-- The record as a line of a log: the level padded to five characters, the
component, the message. Log lines go to a terminal, which a message must not
steer. -/
def line (record : LogRecord) : String :=
  let level := record.level.name
  let padding := String.ofList (List.replicate (5 - level.length) ' ')
  Text.visible
    s!"[{level}{padding} {record.component.label}] {indentBreaks 4 record.message}\n"

end LogRecord

/-- A result together with what could be observed while it was computed: the log
records, how often a grammar parsed, how often a node was asked for its
children. -/
structure Observed (α : Type) where
  value : α
  log : List LogRecord := []
  parses : Nat := 0
  fetched : Nat := 0

end Enclosure
