import Enclosure.Node
import Enclosure.Text.Column

/-!
# Trees written as tables

A table has a row for every node of a tree. A row names the row of its parent by
number; the one row without a parent is the root, and a table without rows is
the empty tree. The rows may come in any order, and the children of a node are
its rows in the order of the table.

No path from the root is longer than the table, so the length of the table is
enough fuel to build the tree.

Parsers report the places of a node as rows of the text and byte offsets. Such a
row becomes a table row by counting the columns of its two ends in characters.
-/

set_option autoImplicit false

namespace Enclosure

/-- A node without its children, and the number of its parent's row. -/
structure TreeRow where
  parent : Option Nat
  kind : String
  start : Position
  stop : Position
  missing : Bool

namespace TreeRow

/-- The node of a row, with given children. -/
def toNode (row : TreeRow) (children : List Node) : Node :=
  ⟨row.kind, row.start, row.stop, row.missing, children⟩

end TreeRow

/-- A tree written as a list of rows. -/
abbrev TreeTable := List TreeRow

namespace TreeTable

/-- The rows under a parent, each with its number, in the order of the table. -/
def rowsUnder (table : TreeTable) (parent : Option Nat) : List (TreeRow × Nat) :=
  table.zipIdx.filter fun (row, _) => row.parent == parent

/-- The node of a row with everything below it, down to a depth. -/
def build (table : TreeTable) : (depth : Nat) → TreeRow × Nat → Node
  | 0, (row, _) => row.toNode []
  | depth + 1, (row, number) =>
    row.toNode ((table.rowsUnder (some number)).map (table.build depth))

/-- **The tree that a table describes.** -/
def tree (table : TreeTable) : Tree :=
  (table.rowsUnder none).head?.map (table.build table.length)

/-- The part of the tree below a row, the row's own node included. -/
def subtree (table : TreeTable) (number : Nat) : Tree :=
  table[number]?.map fun row => table.build table.length (row, number)

end TreeTable

/-- A place in a text: a row, counted from zero, and a byte offset from the start
of the text. -/
structure SourcePoint where
  row : Nat
  offset : Nat

/-- The position of a place in a text, with the column counted in characters. -/
def SourcePoint.position (point : SourcePoint) (bytes : Array UInt8) : Position :=
  ⟨.ofNat point.row, .ofNat (Text.charColumn bytes point.offset)⟩

/-- A row of a tree over a text, as a parser reports it. -/
structure SourceRow where
  parent : Option Nat
  kind : String
  start : SourcePoint
  stop : SourcePoint
  missing : Bool

/-- The table row of a parser's row over a text. -/
def SourceRow.toTreeRow (bytes : Array UInt8) (row : SourceRow) : TreeRow where
  parent := row.parent
  kind := row.kind
  start := row.start.position bytes
  stop := row.stop.position bytes
  missing := row.missing

/-- **The tree that a parser reports over a text.** -/
def Tree.ofSource (text : String) (rows : List SourceRow) : Tree :=
  TreeTable.tree (rows.map (SourceRow.toTreeRow (Text.bytes text)))

end Enclosure
