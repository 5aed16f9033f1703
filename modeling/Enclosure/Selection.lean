import Enclosure.KindSet
import Enclosure.Log
import Enclosure.Policy
import Enclosure.Walker

/-!
# Selecting the structural unit that encloses a range of lines

A node is a candidate for a range when its kind is structural and its lines
contain the range. The candidates are met in pre-order, and the policy decides,
by size, whether a candidate replaces the one selected so far. Every replacement
is logged, so that the last of those records names the answer.
-/

set_option autoImplicit false

namespace Enclosure

/-- A structural unit: the kind of a node and its first and last line. -/
structure StructuralUnit where
  kind : String
  extent : Extent
deriving DecidableEq

/-- The unit of a kind that occupies a span of lines. -/
def StructuralUnit.ofSpan (kind : String) (span : LineSpan) : StructuralUnit :=
  ⟨kind, span.extent⟩

/-- The answer to a lookup: a unit, or nothing. -/
structure Finding where
  unit : Option StructuralUnit
deriving DecidableEq

/-- The answer that nothing was found. -/
def Finding.nothing : Finding := ⟨none⟩

/-- What makes a node structural, and which candidate wins. -/
structure Selection where
  kinds : KindSet
  policy : Policy
deriving DecidableEq

namespace Selection

/-- The selection by a set of kinds, preferring the outermost unit. -/
def ofKinds (kinds : KindSet) : Selection := ⟨kinds, .outermost⟩

/-- The selection used when nothing is said. -/
def standard : Selection := ofKinds KindSet.standard

/-- The node may answer a query for the range. -/
def isCandidate (selection : Selection) (range : LineRange) (node : Node) : Bool :=
  selection.kinds.contains node.kind && node.span.contains range

/-- The record of a selected candidate. -/
def selectedRecord (selection : Selection) (node : Node) : LogRecord where
  level := .debug
  component := .resolver
  message :=
    let span := node.span
    s!"Candidate {node.kind} at lines {span.first}-{span.last} selected"
      ++ s!" ({selection.policy.name} policy)"

/-- The search so far: the node selected last, and the records made. -/
structure Progress where
  best : Option Node := none
  log : List LogRecord := []

/-- The node takes the place of the one selected so far. -/
def replaces (selection : Selection) (node : Node) : Option Node → Bool
  | none => true
  | some current => selection.policy.prefers node.span.size current.span.size

/-- Meet one more node. -/
def meet (selection : Selection) (range : LineRange) (progress : Progress) (node : Node) :
    Progress :=
  if selection.isCandidate range node && selection.replaces node progress.best then
    ⟨some node, progress.log ++ [selection.selectedRecord node]⟩
  else progress

/-- Meet the nodes of a list, one after another. -/
def meetAll (selection : Selection) (range : LineRange) (nodes : List Node) : Progress :=
  nodes.foldl (selection.meet range) {}

/-- **The structural unit of the tree that encloses the range.** -/
def resolve (selection : Selection) (tree : Tree) (range : LineRange) :
    Observed (Option StructuralUnit) :=
  let nodes := (Walker.ofTree tree).drain
  let progress := selection.meetAll range nodes
  { value := progress.best.map fun node => .ofSpan node.kind node.span
    log := progress.log
    fetched := nodes.length }

end Selection

end Enclosure
