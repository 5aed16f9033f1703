import Enclosure.Checker
import Enclosure.Proofs.Tree.Overhang

/-!
# The lines that a text touches

A text from one position up to another touches a line when some position of the line lies
in it. The span of a text is computed from its two ends alone, by adding one to a line and
sometimes taking one away again. This module shows that the result is what it should be: the
lines of the span are exactly the lines that the text touches
(`LineSpan.holds_ofPositions_iff_touches`).

A text without width touches nothing, and its span is the one line on which it stands. A
text that ends before it starts touches nothing either, but nothing is assumed of the ends
that a parser reports, so its span is computed all the same. Whatever the ends are, the
computation stays within the words (`LineSpan.toNat_ofPositions_le`), and a span that turns
out backward answers no question: it contains no range at all
(`LineSpan.exists_contains_iff`).
-/

set_option autoImplicit false

namespace Enclosure

namespace Position

variable {start stop : Position}

theorem lt_iff_toNat :
    start < stop ↔ start.line.toNat < stop.line.toNat ∨
      start.line.toNat = stop.line.toNat ∧ start.column.toNat < stop.column.toNat := by
  rw [UInt32.toNat_inj]
  exact Iff.rfl

/-- The text from `start` up to `stop` has a place on the line, which is counted from one. -/
def Touches (start stop : Position) (line : UInt64) : Prop :=
  ∃ place : Position, place.line.toNat + 1 = line.toNat ∧ start ≤ place ∧ place < stop

/-- A text that runs forward touches the lines from that of its start to that of its end,
without the latter when the text ends at its very start. -/
theorem touches_iff_toNat (forward : start < stop) {line : UInt64} :
    Touches start stop line ↔
      start.line.toNat < line.toNat ∧ line.toNat ≤ stop.line.toNat + 1 ∧
        ¬ (line.toNat = stop.line.toNat + 1 ∧ stop.column.toNat = 0 ∧
          start.line.toNat < stop.line.toNat) := by
  rw [lt_iff_toNat] at forward
  simp only [Touches, le_iff_toNat, lt_iff_toNat]
  constructor
  · rintro ⟨place, onLine, starts, stops⟩
    omega
  · rintro ⟨above, below, reached⟩
    -- On its first line the text has its start, on every later line the first column.
    by_cases first : line.toNat = start.line.toNat + 1
    · exact ⟨start, by omega, by omega, by omega⟩
    · have bound := stop.line.toNat_lt
      have fits : (UInt32.ofNat (line.toNat - 1)).toNat = line.toNat - 1 := by
        rw [UInt32.toNat_ofNat']
        omega
      have leftmost : (0 : UInt32).toNat = 0 := rfl
      refine ⟨⟨UInt32.ofNat (line.toNat - 1), 0⟩, ?_, ?_, ?_⟩ <;> dsimp only <;> omega

end Position

namespace LineSpan

variable {start stop : Position}

theorem holds_iff_toNat {span : LineSpan} {line : UInt64} :
    span.Holds line ↔ span.first.toNat ≤ line.toNat ∧ line.toNat ≤ span.last.toNat := by
  rw [Holds, UInt64.le_iff_toNat_le, UInt64.le_iff_toNat_le]

/-- **The lines of a span are the lines that the text touches.** -/
theorem holds_ofPositions_iff_touches (forward : start < stop) {line : UInt64} :
    (ofPositions start stop).Holds line ↔ Position.Touches start stop line := by
  rw [Position.touches_iff_toNat forward, holds_iff_toNat, toNat_first_ofPositions,
    toNat_last_ofPositions]
  rw [Position.lt_iff_toNat] at forward
  split_ifs <;> omega

/-- A text without width has the line on which it stands. -/
theorem holds_ofPositions_self {place : Position} {line : UInt64} :
    (ofPositions place place).Holds line ↔ line.toNat = place.line.toNat + 1 := by
  rw [holds_iff_toNat, toNat_first_ofPositions, toNat_last_ofPositions, if_neg (by omega)]
  omega

/-! ## Words -/

theorem toNat_toUInt64_add_one (line : UInt32) : (line.toUInt64 + 1).toNat = line.toNat + 1 := by
  have bound := line.toNat_lt
  rw [UInt64.toNat_add, UInt32.toNat_toUInt64, UInt64.toNat_one]
  omega

/-- Taking one line away from the line behind the end is not going below zero. -/
theorem toNat_toUInt64_add_one_sub_one (line : UInt32) :
    (line.toUInt64 + 1 - 1).toNat = line.toNat := by
  rw [UInt64.toNat_sub_of_le, toNat_toUInt64_add_one, UInt64.toNat_one, Nat.add_sub_cancel]
  rw [UInt64.le_iff_toNat_le, toNat_toUInt64_add_one, UInt64.toNat_one]
  omega

/-- The last line in two steps: add one to the line of the end, and take one away again if
the text ends at the start of a later line. -/
theorem last_ofPositions_eq_two_steps (start stop : Position) :
    (ofPositions start stop).last =
      if stop.column = 0 ∧ start.line < stop.line then stop.line.toUInt64 + 1 - 1
      else stop.line.toUInt64 + 1 := by
  have undone : stop.line.toUInt64 + 1 - 1 = stop.line.toUInt64 := by
    rw [← UInt64.toNat_inj, toNat_toUInt64_add_one_sub_one, UInt32.toNat_toUInt64]
  rw [undone]
  rfl

/-- Both ends of a span are lines counted from one, and no more than there are. -/
theorem toNat_ofPositions_le (start stop : Position) :
    (1 ≤ (ofPositions start stop).first.toNat ∧
        (ofPositions start stop).first.toNat ≤ 0x100000000) ∧
      1 ≤ (ofPositions start stop).last.toNat ∧
        (ofPositions start stop).last.toNat ≤ 0x100000000 := by
  have startBound := start.line.toNat_lt
  have stopBound := stop.line.toNat_lt
  rw [toNat_first_ofPositions, toNat_last_ofPositions]
  split_ifs <;> omega

/-! ## Ranges inside a span -/

/-- **A span contains some range of lines exactly when it is not backward.** -/
theorem exists_contains_iff (start stop : Position) :
    (∃ (first last : UInt64) (range : LineRange), LineRange.ofLines first last = .ok range ∧
        (ofPositions start stop).contains range = true) ↔
      (ofPositions start stop).first ≤ (ofPositions start stop).last := by
  constructor
  · rintro ⟨first, last, range, -, contains⟩
    exact first_le_last_of_contains contains
  · intro forward
    have counted : 1 ≤ (ofPositions start stop).first := by
      rw [UInt64.le_iff_toNat_le, UInt64.toNat_one]
      exact (toNat_ofPositions_le start stop).1.1
    refine ⟨(ofPositions start stop).first, (ofPositions start stop).last,
      ⟨_, _, counted, forward⟩, ?_, ?_⟩
    · rw [LineRange.ofLines, dif_pos counted, dif_pos forward]
    · simp [contains]

/-- **The span of a text is the lines that it touches.**

* The lines of the span of a text that runs forward are exactly those on which it has a
  place.
* The span of a text without width is the one line on which it stands.
* Wherever a text starts and stops, in whatever order: one added to a line, and one taken
  away again, are added and taken away in whole numbers, without leaving the words; both ends
  of the span are between 1 and 2³²; the span contains a range of lines exactly when it is not
  backward, which it never is when the text does not run backward.
* A syntax error is reported on the lines of its node. -/
theorem ofPositions_holds_touched_lines :
    (∀ start stop : Position, start < stop → ∀ line : UInt64,
      (ofPositions start stop).Holds line ↔
        ∃ place : Position, place.line.toNat + 1 = line.toNat ∧ start ≤ place ∧ place < stop) ∧
    (∀ (place : Position) (line : UInt64),
      (ofPositions place place).Holds line ↔ line.toNat = place.line.toNat + 1) ∧
    (∀ start stop : Position,
      let span := ofPositions start stop
      let endsBefore := stop.column = 0 ∧ start.line < stop.line
      (span.first = start.line.toUInt64 + 1 ∧ span.first.toNat = start.line.toNat + 1) ∧
      (span.last = (if endsBefore then stop.line.toUInt64 + 1 - 1 else stop.line.toUInt64 + 1) ∧
        (stop.line.toUInt64 + 1).toNat = stop.line.toNat + 1 ∧
        (stop.line.toUInt64 + 1 - 1).toNat = stop.line.toNat) ∧
      (1 ≤ span.first.toNat ∧ span.first.toNat ≤ 0x100000000) ∧
      (1 ≤ span.last.toNat ∧ span.last.toNat ≤ 0x100000000) ∧
      ((∃ (first last : UInt64) (range : LineRange), LineRange.ofLines first last = .ok range ∧
          span.contains range = true) ↔ span.first ≤ span.last) ∧
      (start ≤ stop → span.first ≤ span.last)) ∧
    ∀ node : Node, node.site.startLine = node.span.first ∧ node.site.endLine = node.span.last := by
  refine ⟨?_, ?_, ?_, ?_⟩
  · intro start stop forward line
    exact holds_ofPositions_iff_touches forward
  · intro place line
    exact holds_ofPositions_self
  · intro start stop span endsBefore
    obtain ⟨firstBounds, lastBounds⟩ := toNat_ofPositions_le start stop
    refine ⟨⟨rfl, toNat_first_ofPositions start stop⟩,
      ⟨last_ofPositions_eq_two_steps start stop, toNat_toUInt64_add_one stop.line,
        toNat_toUInt64_add_one_sub_one stop.line⟩,
      firstBounds, lastBounds, exists_contains_iff start stop, ?_⟩
    intro forward
    exact UInt64.le_iff_toNat_le.mpr (first_le_last_ofPositions forward)
  · intro node
    exact ⟨rfl, rfl⟩

/-- A text from the last column of the first line to the start of the last line that there is
has all lines but the last, and ends at line 2³² - 1; a text that ends two lines before its
start has a span that contains no range. -/
theorem ofPositions_holds_touched_lines_of_longest_text :
    let start : Position := ⟨0, 0xFFFFFFFF⟩
    let stop : Position := ⟨0xFFFFFFFF, 0⟩
    let backward := ofPositions ⟨5, 3⟩ ⟨3, 0⟩
    (ofPositions start stop).Holds 0xFFFFFFFF ∧ ¬ (ofPositions start stop).Holds 0x100000000 ∧
      (ofPositions start stop).first ≤ (ofPositions start stop).last ∧
      ¬ ∃ (first last : UInt64) (range : LineRange), LineRange.ofLines first last = .ok range ∧
        backward.contains range = true := by
  intro start stop backward
  obtain ⟨touched, -, whatever, -⟩ := ofPositions_holds_touched_lines
  have forward : start < stop := by decide
  refine ⟨?_, ?_, ?_, ?_⟩
  · exact (touched start stop forward _).mpr ⟨⟨0xFFFFFFFE, 7⟩, by decide, by decide, by decide⟩
  · intro holds
    obtain ⟨place, onLine, -, before⟩ := (touched start stop forward _).mp holds
    have line : place.line.toNat + 1 = 0x100000000 := onLine
    have last : stop.line.toNat = 0xFFFFFFFF := rfl
    have leftmost : stop.column.toNat = 0 := rfl
    rw [Position.lt_iff_toNat] at before
    omega
  · exact (whatever start stop).2.2.2.2.2 (by decide)
  · exact fun some => absurd ((whatever ⟨5, 3⟩ ⟨3, 0⟩).2.2.2.2.1.mp some) (by decide)

end LineSpan

end Enclosure
