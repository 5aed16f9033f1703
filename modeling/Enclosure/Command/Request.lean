import Enclosure.Policy

/-!
# What the command line can be asked

A request either runs one of the two commands or is answered at once: with the
version, with a summary of the commands, or with a complaint about the
arguments.
-/

set_option autoImplicit false

namespace Enclosure.Command

/-- The form in which results are printed. -/
inductive Format where
  | json
  | yaml
deriving DecidableEq, Inhabited

/-- The format with exactly this name. -/
def Format.ofName? : String → Option Format
  | "json" => some json
  | "yaml" => some yaml
  | _ => none

/-- What to do with the source file. -/
inductive Action where
  /-- Find the unit that encloses two lines, under a policy of its own if one is
  given. -/
  | find (first last : UInt64) (policy : Option Policy)
  /-- Check for syntax errors: the first one, or all of them. -/
  | check (all : Bool)
deriving DecidableEq

/-- A command to run. -/
structure Invocation where
  verbose : Bool
  settingsPath : Option String
  file : String
  /-- The language of the file; its extension decides when there is none. -/
  language : Option String
  format : Format
  action : Action
deriving DecidableEq

/-- What the arguments ask for. -/
inductive Request where
  | run (invocation : Invocation)
  | version
  | help
  | misuse
deriving DecidableEq

end Enclosure.Command
