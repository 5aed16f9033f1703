import Enclosure.Proofs.Checker.Agreement
import Enclosure.Proofs.Text.Columns
import Enclosure.Proofs.Tree.Paths
import Enclosure.Proofs.Walker.Asking
import Enclosure.TreeTable
import Mathlib.Data.List.Forall2

/-!
# Lines do not depend on how columns are counted

A parser reports places as rows and byte offsets, and the library turns an offset into a
column by counting characters. Counting bytes instead would give other columns. But the
lines of a node depend on its columns in one point only, namely whether it ends at column
zero, and there the two counts agree. So a tree over a text has the same nodes on the
same lines under either count (`Tree.lineViews_ofSource`).

A search for a structural unit looks at kinds and lines, and not at columns; so it gives
the same answer and makes the same log records (`Selection.resolve_eq_of_lineViews`). The
sites of errors show a start column, but their lines are the same.
-/

set_option autoImplicit false

namespace Enclosure

/-! ## Trees over a text, by a way to count columns -/

/-- The position of a place in a text, with the column counted in a given way. -/
def SourcePoint.positionBy (column : Array UInt8 → Nat → Nat) (point : SourcePoint)
    (bytes : Array UInt8) : Position :=
  ⟨.ofNat point.row, .ofNat (column bytes point.offset)⟩

/-- The table row of a parser's row over a text, with columns counted in a given way. -/
def SourceRow.toTreeRowBy (column : Array UInt8 → Nat → Nat) (bytes : Array UInt8)
    (row : SourceRow) : TreeRow where
  parent := row.parent
  kind := row.kind
  start := row.start.positionBy column bytes
  stop := row.stop.positionBy column bytes
  missing := row.missing

/-- The tree that a parser reports over a text, with columns counted in a given way. -/
def Tree.ofSourceBy (column : Array UInt8 → Nat → Nat) (text : String) (rows : List SourceRow) :
    Tree :=
  TreeTable.tree (rows.map (SourceRow.toTreeRowBy column (Text.bytes text)))

/-- The library counts characters. -/
theorem Tree.ofSourceBy_charColumn : Tree.ofSourceBy Text.charColumn = Tree.ofSource := rfl

/-! ## What is left of a tree without its columns -/

/-- What is left of a node without its columns and its children: its kind, its flag and
its lines. -/
structure LineView where
  kind : String
  missing : Bool
  span : LineSpan
deriving DecidableEq

/-- The node without its columns and its children. -/
def Node.lineView (node : Node) : LineView := ⟨node.kind, node.missing, node.span⟩

/-- The places of a node's subtree, with what is left of the nodes there. -/
def Node.lineViews (node : Node) : List (List Nat × LineView) :=
  node.places.map (Prod.map id Node.lineView)

/-- The places of a tree, with what is left of the nodes there. -/
def Tree.lineViews (tree : Tree) : List (List Nat × LineView) :=
  tree.places.map (Prod.map id Node.lineView)

theorem Node.lineView_inj {first second : Node} (same : first.lineView = second.lineView) :
    first.kind = second.kind ∧ first.missing = second.missing ∧ first.span = second.span := by
  rwa [lineView, lineView, LineView.mk.injEq] at same

theorem Tree.map_lineView_preorder (tree : Tree) :
    tree.preorder.map Node.lineView = tree.lineViews.map (·.2) := by
  rw [lineViews, ← map_snd_places, List.map_map, List.map_map]
  rfl

/-- What is left of a tree tells what is left of the node at every place. -/
theorem Tree.mem_lineViews {tree : Tree} {path : List Nat} {view : LineView} :
    (path, view) ∈ tree.lineViews ↔ (tree.at? path).map Node.lineView = some view := by
  rw [lineViews, List.mem_map, Option.map_eq_some_iff]
  constructor
  · rintro ⟨⟨_, node⟩, listed, same⟩
    cases same
    exact ⟨node, mem_places.mp listed, rfl⟩
  · rintro ⟨node, stands, rfl⟩
    exact ⟨(path, node), mem_places.mpr stands, rfl⟩

theorem Tree.map_lineView_at? {first second : Tree} (same : first.lineViews = second.lineViews)
    (path : List Nat) :
    (first.at? path).map Node.lineView = (second.at? path).map Node.lineView := by
  refine Option.ext fun view => ?_
  rw [← mem_lineViews, ← mem_lineViews, same]

/-! ## Tables of the same rows -/

/-- Lists of subtrees look the same when the subtrees do. -/
theorem Node.map_lineView_placesFrom {α : Type} {first second : α → Node} {items : List α}
    (same : ∀ item ∈ items, (first item).lineViews = (second item).lineViews) (index : Nat) :
    (placesFrom index (items.map first)).map (Prod.map id lineView) =
      (placesFrom index (items.map second)).map (Prod.map id lineView) := by
  induction items generalizing index with
  | nil => rfl
  | cons item items ih =>
    have shifted (node : Node) :
        (node.places.map fun place => (index :: place.1, place.2)).map (Prod.map id lineView) =
          node.lineViews.map fun place => (index :: place.1, place.2) := by
      rw [lineViews, List.map_map, List.map_map]
      rfl
    rw [List.map_cons, List.map_cons, placesFrom, placesFrom, List.map_append, List.map_append,
      shifted, shifted, same item List.mem_cons_self,
      ih (fun other listed => same other (.tail item listed)) (index + 1)]

namespace TreeTable

variable {α : Type} {first second : α → TreeRow} {rows : List α}

theorem rowsUnder_map (write : α → TreeRow) (rows : List α) (parent : Option Nat) :
    rowsUnder (rows.map write) parent =
      (rows.zipIdx.filter fun item => (write item.1).parent == parent).map (Prod.map write id) := by
  rw [rowsUnder, List.zipIdx_map, List.filter_map]
  rfl

theorem lineViews_toNode (row : TreeRow) (children : List Node) :
    (row.toNode children).lineViews =
      ([], (row.toNode []).lineView) ::
        (Node.placesFrom 0 children).map (Prod.map id Node.lineView) := by
  rw [Node.lineViews, TreeRow.toNode, Node.places, List.map_cons]
  rfl

/-- Tables made from the same rows grow into trees that look the same, when their rows have
the same parents and look the same. -/
theorem lineViews_build (parents : ∀ row, (first row).parent = (second row).parent)
    (views : ∀ row, ((first row).toNode []).lineView = ((second row).toNode []).lineView)
    (depth : Nat) (row : α) (number : Nat) :
    (build (rows.map first) depth (first row, number)).lineViews =
      (build (rows.map second) depth (second row, number)).lineViews := by
  induction depth generalizing row number with
  | zero => rw [build, build, lineViews_toNode, lineViews_toNode, views]
  | succ depth ih =>
    rw [build, build, lineViews_toNode, lineViews_toNode, views, rowsUnder_map, rowsUnder_map,
      List.map_map, List.map_map]
    simp only [parents]
    rw [Node.map_lineView_placesFrom]
    intro item _
    exact ih item.1 item.2

/-- Tables made from the same rows describe trees that look the same, when their rows have
the same parents and look the same. -/
theorem lineViews_tree (parents : ∀ row, (first row).parent = (second row).parent)
    (views : ∀ row, ((first row).toNode []).lineView = ((second row).toNode []).lineView) :
    (tree (rows.map first)).lineViews = (tree (rows.map second)).lineViews := by
  rw [tree, tree, rowsUnder_map, rowsUnder_map, List.head?_map, List.head?_map,
    List.length_map, List.length_map]
  simp only [parents]
  cases (rows.zipIdx.filter fun item => (second item.1).parent == none).head? with
  | none => rfl
  | some root => exact lineViews_build parents views rows.length root.1 root.2

end TreeTable

/-! ## Both counts of columns -/

/-- The lines between two positions depend on the rows, and on whether the second position
is at column zero. -/
theorem LineSpan.ofPositions_congr {start stop otherStart otherStop : Position}
    (starts : start.line = otherStart.line) (stops : stop.line = otherStop.line)
    (zero : stop.column = 0 ↔ otherStop.column = 0) :
    ofPositions start stop = ofPositions otherStart otherStop := by
  simp only [ofPositions, starts, stops, zero]

/-- A column that fits into a word is zero in both counts or in none. -/
theorem SourcePoint.positionBy_column_eq_zero_iff {text : String}
    (fits : text.utf8ByteSize < UInt32.size) (point : SourcePoint) :
    (point.positionBy Text.charColumn (Text.bytes text)).column = 0 ↔
      (point.positionBy Text.byteColumn (Text.bytes text)).column = 0 := by
  have bounded := Text.byteColumn_le_size (Text.bytes text) point.offset
  have smaller := Text.charColumn_le_byteColumn (Text.bytes text) point.offset
  rw [Text.size_bytes] at bounded
  have zero {column : Nat} (small : column < UInt32.size) :
      UInt32.ofNat column = 0 ↔ column = 0 := by
    rw [← UInt32.toNat_inj, UInt32.toNat_ofNat_of_lt' small, UInt32.toNat_zero]
  simp only [positionBy]
  rw [zero (by omega), zero (by omega)]
  exact Text.charColumn_eq_zero_iff text point.offset

/-- **A tree over a text has the same nodes on the same lines under either count of
columns.** -/
theorem Tree.lineViews_ofSource {text : String} (fits : text.utf8ByteSize < UInt32.size)
    (rows : List SourceRow) :
    (Tree.ofSource text rows).lineViews =
      (Tree.ofSourceBy Text.byteColumn text rows).lineViews := by
  rw [← ofSourceBy_charColumn]
  refine TreeTable.lineViews_tree (fun _ => rfl) fun row => ?_
  have span :
      LineSpan.ofPositions (row.start.positionBy Text.charColumn (Text.bytes text))
          (row.stop.positionBy Text.charColumn (Text.bytes text)) =
        LineSpan.ofPositions (row.start.positionBy Text.byteColumn (Text.bytes text))
          (row.stop.positionBy Text.byteColumn (Text.bytes text)) :=
    LineSpan.ofPositions_congr rfl rfl (row.stop.positionBy_column_eq_zero_iff fits)
  exact congrArg (LineView.mk row.kind row.missing) span

/-! ## Searches -/

/-- Trees that look the same have nodes that look the same, one after another. -/
theorem Tree.forall₂_preorder {first second : Tree} (same : first.lineViews = second.lineViews) :
    List.Forall₂ (fun node other => node.lineView = other.lineView) first.preorder
      second.preorder := by
  have views : first.preorder.map Node.lineView = second.preorder.map Node.lineView := by
    rw [map_lineView_preorder, map_lineView_preorder, same]
  rwa [← List.forall₂_eq_eq_eq, List.forall₂_map_left_iff, List.forall₂_map_right_iff] at views

namespace Selection

variable (selection : Selection) (range : LineRange)

/-- Two searches have selected nodes that look the same, and made the same records. -/
structure Progress.SameView (first second : Progress) : Prop where
  best : first.best.map Node.lineView = second.best.map Node.lineView
  log : first.log = second.log

/-- Whether a node takes the place of another is decided by their lines. -/
theorem replaces_eq_of_lineView {node other : Node} (same : node.lineView = other.lineView)
    {best otherBest : Option Node}
    (sameBest : best.map Node.lineView = otherBest.map Node.lineView) :
    selection.replaces node best = selection.replaces other otherBest := by
  cases best with
  | none =>
    rw [Option.map_none, eq_comm, Option.map_eq_none_iff] at sameBest
    rw [sameBest, replaces, replaces]
  | some current =>
    rw [Option.map_some, eq_comm, Option.map_eq_some_iff] at sameBest
    obtain ⟨otherCurrent, rfl, sameCurrent⟩ := sameBest
    rw [replaces, replaces, (Node.lineView_inj same).2.2, (Node.lineView_inj sameCurrent).2.2]

variable {selection range}

/-- One step of a search looks at kinds and lines. -/
theorem Progress.SameView.meet {first second : Progress} (progress : first.SameView second)
    {node other : Node} (same : node.lineView = other.lineView) :
    (selection.meet range first node).SameView (selection.meet range second other) := by
  obtain ⟨kind, -, span⟩ := Node.lineView_inj same
  have candidate : selection.isCandidate range node = selection.isCandidate range other := by
    rw [isCandidate, isCandidate, kind, span]
  have record : selection.selectedRecord node = selection.selectedRecord other := by
    rw [selectedRecord, selectedRecord, kind, span]
  rw [Selection.meet, Selection.meet, candidate,
    selection.replaces_eq_of_lineView same progress.best]
  split
  · exact ⟨congrArg some same, by rw [progress.log, record]⟩
  · exact progress

/-- A whole search looks at kinds and lines. -/
theorem Progress.SameView.foldl_meet {nodes others : List Node}
    (same : List.Forall₂ (fun node other => node.lineView = other.lineView) nodes others)
    {first second : Progress} (progress : first.SameView second) :
    (nodes.foldl (selection.meet range) first).SameView
      (others.foldl (selection.meet range) second) := by
  induction same generalizing first second with
  | nil => exact progress
  | cons sameNode _ ih => exact ih (progress.meet sameNode)

variable (selection range)

/-- **A search gives the same answer, with the same records, in trees that look the same.** -/
theorem resolve_eq_of_lineViews {first second : Tree} (same : first.lineViews = second.lineViews) :
    selection.resolve first range = selection.resolve second range := by
  have nodes := Tree.forall₂_preorder same
  have started : Progress.SameView {} {} := ⟨rfl, rfl⟩
  have searched : (selection.meetAll range first.preorder).SameView
      (selection.meetAll range second.preorder) := started.foldl_meet nodes
  -- The unit of a node is made from what is left of it.
  have units := congrArg (Option.map fun view => StructuralUnit.ofSpan view.kind view.span)
    searched.best
  rw [Option.map_map, Option.map_map] at units
  rw [resolve, resolve, Walker.drain_ofTree, Walker.drain_ofTree, Observed.mk.injEq]
  exact ⟨units, searched.log, rfl, nodes.length_eq⟩

end Selection

/-! ## Errors -/

/-- The lines of an error, without the column at which it starts. -/
def ErrorSite.lines (site : ErrorSite) : UInt64 × UInt64 := (site.startLine, site.endLine)

/-- The lines of all errors are told by what is left of a tree. -/
theorem Checker.map_lines_errors (checker : Checker) (tree : Tree) :
    (checker.errors tree).value.map ErrorSite.lines =
      ((tree.lineViews.map (·.2)).filter fun view =>
        view.missing || view.kind == checker.errorKind).map fun view =>
          (view.span.first, view.span.last) := by
  rw [errors, Walker.drain_ofTree, ← Tree.map_lineView_preorder, List.filter_map, List.map_map,
    List.map_map]
  rfl

/-- **Errors are on the same lines in trees that look the same.** -/
theorem Checker.lines_eq_of_lineViews (checker : Checker) {first second : Tree}
    (same : first.lineViews = second.lineViews) :
    (checker.firstError first).value.map ErrorSite.lines =
        (checker.firstError second).value.map ErrorSite.lines ∧
      (checker.errors first).value.map ErrorSite.lines =
        (checker.errors second).value.map ErrorSite.lines := by
  have all : (checker.errors first).value.map ErrorSite.lines =
      (checker.errors second).value.map ErrorSite.lines := by
    rw [map_lines_errors, map_lines_errors, same]
  refine ⟨?_, all⟩
  rw [firstError_value, firstError_value, ← List.head?_map, ← List.head?_map, all]

/-! ## Analyzers -/

/-- The grammar with a parser that reports rows, which are then built into a tree. -/
def Grammar.withRows (grammar : Grammar) (rows : String → Except Fault (List SourceRow))
    (build : String → List SourceRow → Tree) : Grammar :=
  { grammar with parse := fun source => (rows source).map (build source) }

namespace Analyzer

variable (grammar : Grammar) (selection : Selection)
  {rows : String → Except Fault (List SourceRow)} {build other : String → List SourceRow → Tree}
  {text : String}

/-- A lookup is the same for two ways to build trees that look the same. -/
theorem find_withRows_eq
    (same : ∀ rows, (build text rows).lineViews = (other text rows).lineViews)
    (first last : UInt64) :
    (mk (grammar.withRows rows build) selection).find text first last =
      (mk (grammar.withRows rows other) selection).find text first last := by
  cases read : LineRange.ofLines first last with
  | error fault => simp only [find, read]
  | ok range =>
    cases parsed : rows text with
    | error fault => simp only [find, read, Grammar.withRows, parsed, Except.map]
    | ok reported =>
      have searched := selection.resolve_eq_of_lineViews range (same reported)
      simp only [find, read, Grammar.withRows, parsed, Except.map, searched]

/-- Errors are on the same lines for two ways to build trees that look the same. -/
theorem map_lines_syntaxErrors_withRows_eq
    (same : ∀ rows, (build text rows).lineViews = (other text rows).lineViews) :
    ((mk (grammar.withRows rows build) selection).syntaxErrors text).value.map
        (List.map ErrorSite.lines) =
      ((mk (grammar.withRows rows other) selection).syntaxErrors text).value.map
        (List.map ErrorSite.lines) := by
  cases parsed : rows text with
  | error fault => simp only [syntaxErrors, inspect, Grammar.withRows, parsed, Except.map]
  | ok reported =>
    have lines := ((mk grammar selection).checker.lines_eq_of_lineViews (same reported)).2
    simp only [syntaxErrors, inspect, Grammar.withRows, parsed, Except.map]
    exact congrArg Except.ok lines

end Analyzer

/-- **Lines do not depend on how columns are counted.**

* A column counted in characters is at most the one counted in bytes, and it is zero
  exactly when the other is. Between two characters, they are the numbers of characters
  and of bytes since the last line break.
* Take a text of less than `2 ^ 32` bytes and any rows reported over it. The trees with
  columns counted in characters and in bytes have nodes at the same places and with the
  same lines, and a checker finds errors on the same lines in them.
* Every lookup of an analyzer gives the same answer and makes the same log records with
  either count, and its syntax errors are on the same lines. -/
theorem Analyzer.lines_independent_of_column_count :
    (∀ (text : String) (offset : Nat),
      Text.charColumn (Text.bytes text) offset ≤ Text.byteColumn (Text.bytes text) offset ∧
      (Text.charColumn (Text.bytes text) offset = 0 ↔
        Text.byteColumn (Text.bytes text) offset = 0)) ∧
    (∀ front back : String,
      let line := front.toList.rtakeWhile (· != '\n')
      Text.charColumn (Text.bytes (front ++ back)) front.utf8ByteSize = line.length ∧
      Text.byteColumn (Text.bytes (front ++ back)) front.utf8ByteSize =
        (String.ofList line).utf8ByteSize) ∧
    ∀ text : String, text.utf8ByteSize < UInt32.size →
      (∀ rows : List SourceRow,
        let inChars := Tree.ofSource text rows
        let inBytes := Tree.ofSourceBy Text.byteColumn text rows
        (∀ path, (inChars.at? path).map Node.span = (inBytes.at? path).map Node.span) ∧
        ∀ checker : Checker,
          (checker.firstError inChars).value.map ErrorSite.lines =
            (checker.firstError inBytes).value.map ErrorSite.lines ∧
          (checker.errors inChars).value.map ErrorSite.lines =
            (checker.errors inBytes).value.map ErrorSite.lines) ∧
      ∀ (grammar : Grammar) (selection : Selection) (rows : String → Except Fault (List SourceRow)),
        let inChars := Analyzer.mk (grammar.withRows rows Tree.ofSource) selection
        let inBytes :=
          Analyzer.mk (grammar.withRows rows (Tree.ofSourceBy Text.byteColumn)) selection
        (∀ first last, inChars.find text first last = inBytes.find text first last) ∧
        (inChars.syntaxErrors text).value.map (List.map ErrorSite.lines) =
          (inBytes.syntaxErrors text).value.map (List.map ErrorSite.lines) := by
  refine ⟨?_, Text.columns_append, ?_⟩
  · intro text offset
    exact ⟨Text.charColumn_le_byteColumn (Text.bytes text) offset,
      Text.charColumn_eq_zero_iff text offset⟩
  · intro text fits
    have same := Tree.lineViews_ofSource fits
    refine ⟨?_, ?_⟩
    · intro rows inChars inBytes
      refine ⟨fun path => ?_, fun checker => checker.lines_eq_of_lineViews (same rows)⟩
      have views := congrArg (Option.map LineView.span) (Tree.map_lineView_at? (same rows) path)
      rwa [Option.map_map, Option.map_map] at views
    · intro grammar selection rows inChars inBytes
      exact ⟨find_withRows_eq grammar selection same,
        map_lines_syntaxErrors_withRows_eq grammar selection same⟩

/-- A function `é` behind a byte-order mark, on two lines, with an error at the end of the
second. The function starts at column 1 in characters and at column 3 in bytes, and the
error at columns 3 and 4. With either count the function is found for line 2, and the
error is on line 2. -/
theorem Analyzer.lines_independent_of_column_count_of_byte_order_mark :
    let text := "\uFEFFdef é():\n  é(\n"
    let rows : List SourceRow :=
      [⟨none, "module", ⟨0, 0⟩, ⟨2, 19⟩, false⟩,
        ⟨some 0, "function_definition", ⟨0, 3⟩, ⟨1, 18⟩, false⟩,
        ⟨some 1, "ERROR", ⟨1, 17⟩, ⟨2, 19⟩, false⟩]
    let grammar : Grammar :=
      { language := "python", kinds := .standard, parse := fun _ => .ok none }
    let inBytes := Analyzer.ofGrammar
      (grammar.withRows (fun _ => .ok rows) (Tree.ofSourceBy Text.byteColumn))
    text.utf8ByteSize = 19 ∧
      (Text.charColumn (Text.bytes text) 3 = 1 ∧ Text.byteColumn (Text.bytes text) 3 = 3) ∧
      (Text.charColumn (Text.bytes text) 17 = 3 ∧ Text.byteColumn (Text.bytes text) 17 = 4) ∧
      (inBytes.find text 2 2).value =
        ⟨some (.ofSpan "function_definition" (LineSpan.ofPositions ⟨0, 1⟩ ⟨1, 4⟩))⟩ ∧
      (inBytes.syntaxErrors text).value.map (List.map ErrorSite.lines) = .ok [(2, 2)] := by
  intro text rows grammar inBytes
  have small : text.utf8ByteSize < UInt32.size := by decide +kernel
  obtain ⟨found, errors⟩ := (lines_independent_of_column_count.2.2 text small).2 grammar
    (.ofKinds .standard) fun _ => .ok rows
  refine ⟨by decide +kernel, by decide +kernel, by decide +kernel, ?_, ?_⟩
  · refine (congrArg Observed.value (found 2 2)).symm.trans ?_
    decide +kernel
  · refine errors.symm.trans ?_
    decide +kernel

end Enclosure
