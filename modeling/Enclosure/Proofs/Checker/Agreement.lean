import Enclosure.Analyzer
import Enclosure.Proofs.Walker.Search

/-!
# The first error and all errors

A dry run stops at the first mark of an error that it meets, and the list of
syntax errors goes through the whole tree. The two are separate traversals with
separate answers to a text that cannot be parsed. They agree: the site at which
a dry run stops is the first of the list (`Checker.firstError_value`), so a text
is valid exactly when the list is empty, and the complaint names the head of the
list.

A verdict is the acceptance of a text or gives a reason against it, and no reason
is empty (`Fault.message_ne_empty`, `Checker.complaint_ne_empty`).
-/

set_option autoImplicit false

namespace Enclosure

/-- Every fault has a wording. -/
theorem Fault.message_ne_empty (fault : Fault) : fault.message ≠ "" := by
  unfold message
  cases fault <;> simp [toString]

namespace Checker

variable (checker : Checker)

/-- Every complaint has a wording. -/
theorem complaint_ne_empty (site : ErrorSite) : checker.complaint site ≠ "" := by
  unfold complaint
  simp [toString]

/-- The wording of a complaint. The column is counted from one in it, and there is
room for this unless the column is the last there is. -/
theorem complaint_eq (site : ErrorSite) (room : site.startColumn < 4294967295) :
    checker.complaint site =
      "Syntax error detected in " ++ checker.language ++ " code at line " ++
        toString site.startLine ++ ", column " ++ toString (site.startColumn.toNat + 1) := by
  have next : (site.startColumn + 1).toNat = site.startColumn.toNat + 1 := by
    rw [UInt32.lt_iff_toNat_lt] at room
    rw [UInt32.toNat_add, UInt32.toNat_one]
    have : (4294967295 : UInt32).toNat = 4294967295 := rfl
    omega
  have number : toString (site.startColumn + 1) = toString (site.startColumn.toNat + 1) :=
    congrArg toString next
  have joint : ", column " = "," ++ " column " := by decide +kernel
  unfold complaint
  rw [← number, joint]
  simp only [String.append_assoc]
  rfl

/-- The sites of all marks, in pre-order. -/
theorem errors_value (tree : Tree) :
    (checker.errors tree).value =
      (tree.preorder.filter fun node => node.missing ∨ node.kind = checker.errorKind).map
        fun node => ErrorSite.ofPositions node.start node.stop := by
  have marked : ∀ node : Node,
      checker.marks node = decide (node.missing ∨ node.kind = checker.errorKind) := by
    intro node
    simp only [marks, Bool.decide_or, Bool.decide_eq_true]
    rfl
  simp only [errors, Walker.drain_eq, List.filter_congr fun node _ => marked node]
  rfl

/-- **The search for the first mark stops at the first of all marks.** -/
theorem firstError_value (tree : Tree) :
    (checker.firstError tree).value = (checker.errors tree).value.head? := by
  simp only [errors, firstError, Walker.drain_eq, Walker.search_eq, List.head?_map,
    List.head?_filter]

/-- The verdict on a tree, by the list of its errors. -/
theorem check_value (tree : Tree) :
    (checker.check tree).value =
      match (checker.errors tree).value with
      | [] => .accepted
      | site :: _ => .refused (checker.complaint site) := by
  simp only [check, firstError_value]
  cases (checker.errors tree).value <;> rfl

end Checker

namespace Analyzer

variable (analyzer : Analyzer) (source : String)

/-- The verdict on a source text, by the list of its errors. -/
theorem dryRun_value :
    (analyzer.dryRun source).value =
      match (analyzer.syntaxErrors source).value with
      | .error fault => .refused fault.message
      | .ok [] => .accepted
      | .ok (site :: _) => .refused (analyzer.checker.complaint site) := by
  unfold dryRun syntaxErrors inspect
  cases analyzer.grammar.parse source with
  | error fault => rfl
  | ok tree =>
    simp only [Checker.check_value]
    cases (analyzer.checker.errors tree).value <;> rfl

/-- A source text is valid exactly when it has no syntax errors. -/
theorem dryRun_valid_iff :
    (analyzer.dryRun source).value.valid = true ↔
      (analyzer.syntaxErrors source).value = .ok [] := by
  rw [dryRun_value]
  rcases (analyzer.syntaxErrors source).value with fault | _ | ⟨site, rest⟩ <;>
    simp [Verdict.accepted, Verdict.refused]

/-- The list of syntax errors is refused exactly when the text is. -/
theorem syntaxErrors_eq_error_iff (fault : Fault) :
    (analyzer.syntaxErrors source).value = .error fault ↔
      analyzer.grammar.parse source = .error fault := by
  unfold syntaxErrors inspect
  cases analyzer.grammar.parse source <;> simp

/-- The syntax errors of a text that is parsed. -/
theorem syntaxErrors_of_parse {tree : Tree} (parsed : analyzer.grammar.parse source = .ok tree) :
    (analyzer.syntaxErrors source).value =
      .ok ((tree.preorder.filter fun node =>
          node.missing ∨ node.kind = analyzer.grammar.errorKind).map
        fun node => ErrorSite.ofPositions node.start node.stop) := by
  simp only [syntaxErrors, inspect, parsed, Checker.errors_value]
  rfl

/-- A source text has no syntax errors exactly when it is parsed into a tree
without marks. -/
theorem syntaxErrors_eq_nil_iff :
    (analyzer.syntaxErrors source).value = .ok [] ↔
      ∃ tree, analyzer.grammar.parse source = .ok tree ∧
        ∀ node ∈ tree.preorder,
          node.missing = false ∧ node.kind ≠ analyzer.grammar.errorKind := by
  cases parsed : analyzer.grammar.parse source with
  | error fault =>
    rw [(analyzer.syntaxErrors_eq_error_iff source fault).mpr parsed]
    simp
  | ok tree =>
    rw [analyzer.syntaxErrors_of_parse source parsed]
    simp [List.filter_eq_nil_iff]

/-- **A dry run and the list of syntax errors agree.** For every grammar and every
tree it gives:

* the list is refused exactly when the text cannot be parsed, with the fault of
  the parser, and otherwise holds the sites of the nodes that are missing or of
  the error kind, in pre-order;
* a text is valid exactly when the list is empty;
* the complaint of a dry run names the first site of the list, with its column
  counted from one;
* a fault of the parser becomes the reason against the text;
* a verdict gives a reason exactly when it is not an acceptance. -/
theorem dryRun_agrees_with_syntaxErrors :
    (∀ fault, (analyzer.syntaxErrors source).value = .error fault ↔
        analyzer.grammar.parse source = .error fault) ∧
      (∀ tree, analyzer.grammar.parse source = .ok tree →
        (analyzer.syntaxErrors source).value =
          .ok ((tree.preorder.filter fun node =>
              node.missing ∨ node.kind = analyzer.grammar.errorKind).map
            fun node => ErrorSite.ofPositions node.start node.stop)) ∧
      ((analyzer.dryRun source).value.valid = true ↔
        (analyzer.syntaxErrors source).value = .ok []) ∧
      (∀ site rest, (analyzer.syntaxErrors source).value = .ok (site :: rest) →
        site.startColumn < 4294967295 →
        (analyzer.dryRun source).value.error =
          "Syntax error detected in " ++ analyzer.grammar.language ++ " code at line " ++
            toString site.startLine ++ ", column " ++ toString (site.startColumn.toNat + 1)) ∧
      (∀ fault, (analyzer.syntaxErrors source).value = .error fault →
        (analyzer.dryRun source).value = ⟨false, fault.message⟩) ∧
      ((analyzer.dryRun source).value.error = "" ↔
        (analyzer.dryRun source).value.valid = true) := by
  refine ⟨analyzer.syntaxErrors_eq_error_iff source,
    fun tree parsed => analyzer.syntaxErrors_of_parse source parsed,
    analyzer.dryRun_valid_iff source, ?_, ?_, ?_⟩
  · intro site rest listed room
    rw [dryRun_value, listed]
    exact analyzer.checker.complaint_eq site room
  · intro fault refused
    rw [dryRun_value, refused]
    rfl
  · rw [dryRun_value]
    rcases (analyzer.syntaxErrors source).value with fault | _ | ⟨site, rest⟩
    · simp [Verdict.refused, fault.message_ne_empty]
    · simp [Verdict.accepted]
    · simp [Verdict.refused, analyzer.checker.complaint_ne_empty site]

end Analyzer

end Enclosure
