import Enclosure.Catalog
import Enclosure.TreeTable

/-!
# Tree tables as lines of text

An external parser hands its tree over as lines, one for every row: the number
of the parent's row, or `-1` at the root; the kind; the row and byte offset of
the start; the row and byte offset of the end; and `1` for a node that the
parser made up, `0` for any other. The seven fields are separated by tabs.
-/

set_option autoImplicit false

namespace Enclosure

/-- The row that a line writes. -/
def SourceRow.ofLine? (line : String) : Option SourceRow := do
  let [parent, kind, startRow, startOffset, stopRow, stopOffset, missing] := line.splitOn "\t"
    | none
  let parent ← if parent = "-1" then some none else parent.toNat?.map some
  let start : SourcePoint := ⟨← startRow.toNat?, ← startOffset.toNat?⟩
  let stop : SourcePoint := ⟨← stopRow.toNat?, ← stopOffset.toNat?⟩
  let missing ←
    match missing with
    | "0" => some false
    | "1" => some true
    | _ => none
  return ⟨parent, kind, start, stop, missing⟩

/-- The rows that lines write; every line must write one. -/
def SourceRow.ofLines? (lines : List String) : Option (List SourceRow) := lines.mapM ofLine?

/-- The parsers that answer with the tree of given lines, whatever the language. -/
def Parsers.ofLines (lines : List String) : Parsers := fun language text =>
  match SourceRow.ofLines? lines with
  | some rows => .ok (Tree.ofSource text rows)
  | none => .error (.parse language.name "the tree is not a table of rows")

end Enclosure
