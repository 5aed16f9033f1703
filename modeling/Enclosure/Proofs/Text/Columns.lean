import Enclosure.Proofs.Text.ByteOrder
import Mathlib.Data.List.DropRight
import Mathlib.Data.List.Induction

/-!
# Columns in bytes and columns in characters

A column is counted over the bytes between the last line break before a place and the
place (`Text.lineBefore`): a column in bytes counts all of them, and a column in
characters counts those that begin a character. At a place between two characters these
are the numbers of bytes and of characters since the line break
(`Text.columns_append`).

A column in characters is therefore at most the column in bytes, and both are zero at the
same places (`Text.charColumn_eq_zero_iff`), also inside a character: the first byte of a
line begins a character, because no character that has several bytes has a line break
among them.
-/

set_option autoImplicit false

namespace Enclosure.Text

/-! ## The bytes of a character -/

theorem isContinuation_ofNat {number : Nat} (fits : number < 256) :
    isContinuation (UInt8.ofNat number) = true ↔ 0x80 ≤ number ∧ number < 0xC0 := by
  rw [isContinuation, Bool.and_eq_true, decide_eq_true_eq, decide_eq_true_eq,
    UInt8.le_iff_toNat_le, UInt8.lt_iff_toNat_lt, UInt8.toNat_ofNat', Nat.mod_eq_of_lt fits]
  exact Iff.rfl

/-- A byte that leads, and bytes that continue what it began. -/
def Leads (lead : UInt8) (bytes : List UInt8) : Prop :=
  ∃ tail, bytes = lead :: tail ∧ ∀ byte ∈ tail, isContinuation byte = true

theorem leads_leading (mark limit number : Nat) :
    Leads (UInt8.ofNat (number % limit + mark)) (leading mark limit number) :=
  ⟨[], rfl, by simp⟩

theorem Leads.withDigit {lead : UInt8} {front : Nat → List UInt8} {number : Nat}
    (leads : Leads lead (front (number / 64))) : Leads lead (withDigit front number) := by
  obtain ⟨tail, written, continues⟩ := leads
  refine ⟨tail ++ [UInt8.ofNat (number % 64 + 128)], by rw [Text.withDigit, written]; rfl, ?_⟩
  intro byte listed
  rcases List.mem_append.mp listed with earlier | last
  · exact continues byte earlier
  · rw [List.mem_singleton.mp last]
    exact (isContinuation_ofNat (by omega)).mpr (by omega)

/-- A character begins with a byte that continues nothing, and only the line break begins
like a line break. -/
theorem exists_leads_utf8EncodeChar (character : Char) :
    ∃ lead, Leads lead (String.utf8EncodeChar character) ∧ isContinuation lead = false ∧
      (character ≠ '\n' → lead ≠ 10) := by
  have limit := code_lt character
  have lineBreak : character ≠ '\n' → character.val.toNat ≠ 10 := by
    intro other same
    exact other (Char.ext (UInt32.toNat_inj.mp same))
  have begins : ∀ number : Nat, number < 256 → (number < 0x80 ∨ 0xC0 ≤ number) →
      isContinuation (UInt8.ofNat number) = false := by
    intro number fits outside
    rw [← Bool.not_eq_true, isContinuation_ofNat fits]
    omega
  have otherByte : ∀ number : Nat, number < 256 → number ≠ 10 → UInt8.ofNat number ≠ 10 := by
    intro number fits different same
    have equal := congrArg UInt8.toNat same
    rw [UInt8.toNat_ofNat', Nat.mod_eq_of_lt fits] at equal
    exact different equal
  simp only [utf8EncodeChar_eq]
  generalize character.val.toNat = code at limit lineBreak
  -- The mark of a leading byte lies outside the continuations and above the line break.
  split_ifs
  · refine ⟨_, leads_leading .., begins _ (by omega) (by omega), fun other => ?_⟩
    have different := lineBreak other
    exact otherByte _ (by omega) (by omega)
  · exact ⟨_, (leads_leading ..).withDigit, begins _ (by omega) (by omega),
      fun _ => otherByte _ (by omega) (by omega)⟩
  · exact ⟨_, (leads_leading ..).withDigit.withDigit, begins _ (by omega) (by omega),
      fun _ => otherByte _ (by omega) (by omega)⟩
  · exact ⟨_, (leads_leading ..).withDigit.withDigit.withDigit, begins _ (by omega) (by omega),
      fun _ => otherByte _ (by omega) (by omega)⟩

/-- The bytes of a character hold a line break only if it is one. -/
theorem ne_of_mem_utf8EncodeChar {character : Char} (other : character ≠ '\n') {byte : UInt8}
    (listed : byte ∈ String.utf8EncodeChar character) : byte ≠ 10 := by
  obtain ⟨lead, ⟨tail, written, continues⟩, -, notBreak⟩ := exists_leads_utf8EncodeChar character
  rw [written] at listed
  rcases List.mem_cons.mp listed with rfl | later
  · exact notBreak other
  · rintro rfl
    exact absurd (continues 10 later) (by decide)

theorem utf8EncodeChar_lineBreak : String.utf8EncodeChar '\n' = [10] := by decide

/-- One byte of a character begins it. -/
theorem countP_utf8EncodeChar (character : Char) :
    (String.utf8EncodeChar character).countP (!isContinuation ·) = 1 := by
  obtain ⟨lead, ⟨tail, written, continues⟩, begins, -⟩ := exists_leads_utf8EncodeChar character
  have rest : tail.countP (!isContinuation ·) = 0 := by
    rw [List.countP_eq_zero]
    intro byte listed
    simp [continues byte listed]
  rw [written, List.countP_cons_of_pos (by simp [begins]), rest]

/-! ## The bytes since the last line break -/

/-- The bytes between the last line break before an offset and the offset. -/
def lineBefore (bytes : Array UInt8) (offset : Nat) : List UInt8 :=
  (bytes.toList.take offset).rtakeWhile (· != 10)

theorem lineBefore_zero (bytes : Array UInt8) : lineBefore bytes 0 = [] := by
  rw [lineBefore, List.take_zero, List.rtakeWhile_nil]

theorem lineBefore_succ (bytes : Array UInt8) (offset : Nat) :
    lineBefore bytes (offset + 1) =
      match bytes[offset]? with
      | none => lineBefore bytes offset
      | some byte => if byte = 10 then [] else lineBefore bytes offset ++ [byte] := by
  rw [lineBefore, List.take_add_one, Array.getElem?_toList]
  cases bytes[offset]? with
  | none => rw [Option.toList_none, List.append_nil, lineBefore]
  | some byte =>
    rw [Option.toList_some, List.rtakeWhile_concat]
    simp only [bne_iff_ne, ne_eq, ite_not, lineBefore]

/-- **A column in bytes is the number of bytes since the last line break.** -/
theorem byteColumn_eq_length (bytes : Array UInt8) (offset : Nat) :
    byteColumn bytes offset = (lineBefore bytes offset).length := by
  induction offset with
  | zero => rw [byteColumn, lineBefore_zero, List.length_nil]
  | succ offset ih =>
    rw [byteColumn, lineBefore_succ]
    cases bytes[offset]? with
    | none => exact ih
    | some byte =>
      dsimp only
      split_ifs
      · rfl
      · rw [ih, List.length_append, List.length_singleton]

/-- **A column in characters is the number of bytes since the last line break that begin a
character.** -/
theorem charColumn_eq_countP (bytes : Array UInt8) (offset : Nat) :
    charColumn bytes offset = (lineBefore bytes offset).countP (!isContinuation ·) := by
  induction offset with
  | zero => rw [charColumn, lineBefore_zero, List.countP_nil]
  | succ offset ih =>
    rw [charColumn, lineBefore_succ]
    cases bytes[offset]? with
    | none => exact ih
    | some byte =>
      dsimp only
      split_ifs with isBreak continues
      · rfl
      · rw [ih, List.countP_append, List.countP_singleton, continues]
        rfl
      · rw [ih, List.countP_append, List.countP_singleton, Bool.eq_false_iff.mpr continues]
        rfl

theorem charColumn_le_byteColumn (bytes : Array UInt8) (offset : Nat) :
    charColumn bytes offset ≤ byteColumn bytes offset := by
  rw [charColumn_eq_countP, byteColumn_eq_length]
  exact List.countP_le_length

theorem byteColumn_le_size (bytes : Array UInt8) (offset : Nat) :
    byteColumn bytes offset ≤ bytes.size := by
  rw [byteColumn_eq_length, lineBefore, ← Array.length_toList]
  exact (List.rtakeWhile_suffix _ _).length_le.trans (List.take_sublist _ _).length_le

/-- What holds no line break continues the line in front of it. -/
theorem rtakeWhile_append_of_forall {α : Type} {test : α → Bool} (front : List α) {back : List α}
    (passes : ∀ item ∈ back, test item = true) :
    (front ++ back).rtakeWhile test = front.rtakeWhile test ++ back := by
  have reversed : ∀ item ∈ back.reverse, test item = true := by simpa using passes
  rw [List.rtakeWhile, List.reverse_append, List.takeWhile_append_of_pos reversed,
    List.reverse_append, List.reverse_reverse, List.rtakeWhile]

/-- The last line of the bytes of a text is that of its characters. -/
theorem rtakeWhile_flatMap_utf8EncodeChar (characters : List Char) :
    (characters.flatMap String.utf8EncodeChar).rtakeWhile (· != 10) =
      (characters.rtakeWhile (· != '\n')).flatMap String.utf8EncodeChar := by
  induction characters using List.reverseRecOn with
  | nil => rfl
  | append_singleton front character ih =>
    rw [List.flatMap_append, List.flatMap_singleton, List.rtakeWhile_concat]
    by_cases other : character = '\n'
    · subst other
      rw [utf8EncodeChar_lineBreak, List.rtakeWhile_concat]
      rfl
    · rw [rtakeWhile_append_of_forall _ fun byte listed =>
        bne_iff_ne.mpr (ne_of_mem_utf8EncodeChar other listed), ih,
        if_pos (bne_iff_ne.mpr other), List.flatMap_append, List.flatMap_singleton]

/-- The first byte since a line break begins a character, wherever the bytes of a text are
cut off. -/
theorem begins_of_head?_rtakeWhile (characters : List Char) (offset : Nat) {byte : UInt8}
    (first : (((characters.flatMap String.utf8EncodeChar).take offset).rtakeWhile
      (· != 10)).head? = some byte) : isContinuation byte = false := by
  induction characters using List.reverseRecOn generalizing offset with
  | nil => simp at first
  | append_singleton front character ih =>
    rw [List.flatMap_append, List.flatMap_singleton, List.take_append] at first
    cases inside : offset - (front.flatMap String.utf8EncodeChar).length with
    | zero =>
      rw [inside, List.take_zero, List.append_nil] at first
      exact ih offset first
    | succ further =>
      -- The cut is inside the bytes of this character, behind its leading byte.
      obtain ⟨lead, ⟨tail, written, -⟩, begins, -⟩ := exists_leads_utf8EncodeChar character
      rw [inside, List.take_of_length_le (by omega)] at first
      by_cases other : character = '\n'
      · subst other
        rw [utf8EncodeChar_lineBreak, List.take_succ_cons, List.take_nil,
          List.rtakeWhile_concat_neg _ _ _ (by decide)] at first
        cases first
      · rw [rtakeWhile_append_of_forall _ fun byte listed =>
          bne_iff_ne.mpr (ne_of_mem_utf8EncodeChar other (List.mem_of_mem_take listed)),
          List.head?_append, written, List.take_succ_cons, List.head?_cons] at first
        cases earlier : ((front.flatMap String.utf8EncodeChar).rtakeWhile (· != 10)).head? with
        | none =>
          rw [earlier, Option.none_or] at first
          exact Option.some.inj first ▸ begins
        | some begun =>
          rw [earlier, Option.some_or] at first
          refine ih (front.flatMap String.utf8EncodeChar).length ?_
          rw [List.take_length, earlier, first]

theorem charColumn_eq_zero_iff (text : String) (offset : Nat) :
    charColumn (bytes text) offset = 0 ↔ byteColumn (bytes text) offset = 0 := by
  rw [charColumn_eq_countP, byteColumn_eq_length, List.length_eq_zero_iff]
  constructor
  · intro none
    cases line : lineBefore (bytes text) offset with
    | nil => rfl
    | cons byte rest =>
      have begins : isContinuation byte = false := by
        refine begins_of_head?_rtakeWhile text.toList offset ?_
        rw [← toList_bytes, ← lineBefore, line, List.head?_cons]
      rw [line, List.countP_cons_of_pos (by simp [begins])] at none
      cases none
  · intro empty
    rw [empty, List.countP_nil]

theorem size_bytes (text : String) : (bytes text).size = text.utf8ByteSize := rfl

/-- **Between two characters, columns are the numbers of characters and of bytes since the
last line break.** -/
theorem columns_append (front back : String) :
    let line := front.toList.rtakeWhile (· != '\n')
    charColumn (bytes (front ++ back)) front.utf8ByteSize = line.length ∧
      byteColumn (bytes (front ++ back)) front.utf8ByteSize =
        (String.ofList line).utf8ByteSize := by
  intro line
  have size (text : String) :
      text.utf8ByteSize = (text.toList.flatMap String.utf8EncodeChar).length := by
    rw [← toList_bytes, Array.length_toList, size_bytes]
  have cut : lineBefore (bytes (front ++ back)) front.utf8ByteSize =
      line.flatMap String.utf8EncodeChar := by
    rw [lineBefore, toList_bytes, String.toList_append, List.flatMap_append, size front,
      List.take_left, rtakeWhile_flatMap_utf8EncodeChar]
  rw [charColumn_eq_countP, byteColumn_eq_length, cut]
  constructor
  · rw [List.countP_flatMap]
    have ones : List.map (List.countP (!isContinuation ·) ∘ String.utf8EncodeChar) line =
        List.replicate line.length 1 := by
      rw [List.eq_replicate_iff]
      simp [countP_utf8EncodeChar]
    rw [ones, List.sum_replicate_nat, Nat.mul_one]
  · rw [size, String.toList_ofList]

end Enclosure.Text
