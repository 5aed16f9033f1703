import Enclosure.Log
import Enclosure.Walker

/-!
# Checking a tree for syntax errors

A parser that keeps going after an error leaves marks in the tree: nodes of a
kind reserved for errors, and nodes that it made up because something was
missing. A tree without marks comes from a valid text. The check for validity
stops at the first mark; the list of errors needs them all.
-/

set_option autoImplicit false

namespace Enclosure

/-- Where a syntax error was found: the lines it occupies, counted from one, and
the column where it starts, counted from zero. -/
structure ErrorSite where
  startLine : UInt64
  startColumn : UInt32
  endLine : UInt64
deriving DecidableEq

/-- The site of the text between two positions. -/
def ErrorSite.ofPositions (start stop : Position) : ErrorSite :=
  let span := LineSpan.ofPositions start stop
  ⟨span.first, start.column, span.last⟩

/-- The site of a node. -/
def Node.site (node : Node) : ErrorSite := ErrorSite.ofPositions node.start node.stop

/-- Whether a text is valid, and if not, why. -/
structure Verdict where
  valid : Bool
  error : String
deriving DecidableEq

/-- The verdict on a valid text. -/
def Verdict.accepted : Verdict := ⟨true, ""⟩

/-- The verdict on a text that is not valid, for a reason. -/
def Verdict.refused (reason : String) : Verdict := ⟨false, reason⟩

/-- What to look for, and how to call the language in messages. -/
structure Checker where
  language : String
  errorKind : String

/-- The kind that parsers reserve for errors. -/
def Checker.standardErrorKind : String := "ERROR"

namespace Checker

/-- The checker used when nothing is said. -/
def standard : Checker := ⟨"source", standardErrorKind⟩

/-- The node marks an error. -/
def marks (checker : Checker) (node : Node) : Bool :=
  node.missing || node.kind == checker.errorKind

/-- The site of the first mark, looked for no further than needed. -/
def firstError (checker : Checker) (tree : Tree) : Observed (Option ErrorSite) :=
  let (found, met) := (Walker.ofTree tree).search checker.marks
  { value := found.map Node.site, fetched := met }

/-- The sites of all marks. -/
def errors (checker : Checker) (tree : Tree) : Observed (List ErrorSite) :=
  let nodes := (Walker.ofTree tree).drain
  { value := (nodes.filter checker.marks).map Node.site, fetched := nodes.length }

/-- The complaint about an error at a site. -/
def complaint (checker : Checker) (site : ErrorSite) : String :=
  s!"Syntax error detected in {checker.language} code at line {site.startLine},"
    ++ s!" column {site.startColumn + 1}"

/-- **The verdict on a tree**, which names its first mark. -/
def check (checker : Checker) (tree : Tree) : Observed Verdict :=
  let first := checker.firstError tree
  { first with
    value :=
      match first.value with
      | none => .accepted
      | some site => .refused (checker.complaint site) }

/-- All that a checker can say about a tree. -/
structure Examination where
  first : Option ErrorSite
  verdict : Verdict
  sites : List ErrorSite

/-- Examine a tree in three traversals: for the first mark, for the verdict, and
for all marks. -/
def examine (checker : Checker) (tree : Tree) : Observed Examination :=
  let first := checker.firstError tree
  let verdict := checker.check tree
  let sites := checker.errors tree
  { value := ⟨first.value, verdict.value, sites.value⟩
    fetched := first.fetched + verdict.fetched + sites.fetched }

end Checker

end Enclosure
