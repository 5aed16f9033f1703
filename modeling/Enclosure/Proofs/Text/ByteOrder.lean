import Enclosure.Text.Column
import Mathlib.Tactic.SplitIfs

/-!
# The order of texts is the order of their bytes

Names and kinds are kept in ascending order, and texts are compared by their code
points. Written out as UTF-8 bytes and compared byte by byte they come in the same
order (`Text.before_iff_lt`).

The reason is how a code point is written. Its bytes are the digits of a number in
base 64 behind a leading byte, so that code points with equally many bytes compare
like their digits; and of two code points with different numbers of bytes the
larger has more bytes and the larger leading byte. Since the order is decided within
the bytes of one code point, it does not matter what follows (`Text.Ascends`).
-/

set_option autoImplicit false

namespace Enclosure.Text

/-- The writing of numbers below a limit puts them in their order, whatever bytes
follow. -/
def Ascends (write : Nat → List UInt8) (limit : Nat) : Prop :=
  ∀ ⦃smaller larger : Nat⦄, smaller < larger → larger < limit →
    ∀ after behind : List UInt8, write smaller ++ after < write larger ++ behind

/-- A leading byte: a mark above the bits that it carries. -/
def leading (mark limit number : Nat) : List UInt8 := [UInt8.ofNat (number % limit + mark)]

/-- One more digit in base 64, marked as a continuation. -/
def withDigit (front : Nat → List UInt8) (number : Nat) : List UInt8 :=
  front (number / 64) ++ [UInt8.ofNat (number % 64 + 128)]

theorem byte_lt_byte {smaller larger : Nat} (less : smaller < larger) (fits : larger < 256) :
    UInt8.ofNat smaller < UInt8.ofNat larger := by
  rw [UInt8.lt_iff_toNat_lt, UInt8.toNat_ofNat', UInt8.toNat_ofNat']
  omega

theorem ascends_leading {mark limit : Nat} (fits : mark + limit ≤ 256) :
    Ascends (leading mark limit) limit := by
  intro smaller larger less below after behind
  refine List.cons_lt_cons_iff.mpr (.inl ?_)
  rw [Nat.mod_eq_of_lt below, Nat.mod_eq_of_lt (Nat.lt_trans less below)]
  exact byte_lt_byte (by omega) (by omega)

theorem Ascends.withDigit {front : Nat → List UInt8} {limit : Nat}
    (ascends : Ascends front limit) : Ascends (withDigit front) (limit * 64) := by
  intro smaller larger less below after behind
  simp only [Text.withDigit, List.append_assoc]
  -- Either the digits in front decide, or they are the same and the last digit does.
  by_cases same : smaller / 64 = larger / 64
  · rw [same]
    refine List.append_left_lt (List.cons_lt_cons_iff.mpr (.inl ?_))
    exact byte_lt_byte (by omega) (by omega)
  · exact ascends (by omega) (by omega) _ _

/-- How a code point is written, by the number of its bytes. -/
theorem utf8EncodeChar_eq (character : Char) :
    String.utf8EncodeChar character =
      let code := character.val.toNat
      if code ≤ 0x7f then leading 0 0x80 code
      else if code ≤ 0x7ff then withDigit (leading 0xc0 0x20) code
      else if code ≤ 0xffff then withDigit (withDigit (leading 0xe0 0x10)) code
      else withDigit (withDigit (withDigit (leading 0xf0 0x08))) code := by
  simp only [String.utf8EncodeChar, withDigit, leading, Nat.div_div_eq_div_mul]
  by_cases short : character.val.toNat ≤ 0x7f
  · rw [if_pos short, if_pos short, Nat.mod_eq_of_lt (by omega), Nat.add_zero]
  · rw [if_neg short, if_neg short]
    rfl

theorem code_lt (character : Char) : character.val.toNat < 0x110000 := by
  rcases character.valid with low | ⟨-, high⟩
  · exact Nat.lt_trans low (by decide)
  · exact high

/-- The leading byte decides when one code point has more bytes than another. -/
theorem leading_append_lt {lowMark lowLimit low highMark highLimit high : Nat}
    (less : low % lowLimit + lowMark < high % highLimit + highMark)
    (fits : high % highLimit + highMark < 256) (after behind : List UInt8) :
    leading lowMark lowLimit low ++ after < leading highMark highLimit high ++ behind :=
  List.cons_lt_cons_iff.mpr (.inl (byte_lt_byte less fits))

/-- Of two characters the smaller one has the smaller bytes. -/
theorem utf8EncodeChar_append_lt {smaller larger : Char} (less : smaller < larger)
    (after behind : List UInt8) :
    String.utf8EncodeChar smaller ++ after < String.utf8EncodeChar larger ++ behind := by
  have codes : smaller.val.toNat < larger.val.toNat := less
  have limit := code_lt larger
  have one : Ascends (leading 0 0x80) 0x80 := ascends_leading (by decide)
  have two : Ascends (withDigit (leading 0xc0 0x20)) 0x800 :=
    (ascends_leading (by decide)).withDigit
  have three : Ascends (withDigit (withDigit (leading 0xe0 0x10))) 0x10000 :=
    (ascends_leading (by decide)).withDigit.withDigit
  have four : Ascends (withDigit (withDigit (withDigit (leading 0xf0 0x08)))) 0x200000 :=
    (ascends_leading (by decide)).withDigit.withDigit.withDigit
  simp only [utf8EncodeChar_eq]
  generalize smaller.val.toNat = low at codes
  generalize larger.val.toNat = high at codes limit
  -- The smaller code point never has more bytes. Equally many compare by their
  -- digits, and more bytes by the leading one.
  by_cases lowOne : low ≤ 0x7f
  · rw [if_pos lowOne]
    split_ifs
    · exact one codes (by omega) after behind
    all_goals
      simp only [withDigit, List.append_assoc]
      exact leading_append_lt (by omega) (by omega) _ _
  · rw [if_neg lowOne, if_neg (by omega : ¬ high ≤ 0x7f)]
    by_cases lowTwo : low ≤ 0x7ff
    · rw [if_pos lowTwo]
      split_ifs
      · exact two codes (by omega) after behind
      all_goals
        simp only [withDigit, List.append_assoc]
        exact leading_append_lt (by omega) (by omega) _ _
    · rw [if_neg lowTwo, if_neg (by omega : ¬ high ≤ 0x7ff)]
      by_cases lowThree : low ≤ 0xffff
      · rw [if_pos lowThree]
        split_ifs
        · exact three codes (by omega) after behind
        · simp only [withDigit, List.append_assoc]
          exact leading_append_lt (by omega) (by omega) _ _
      · rw [if_neg lowThree, if_neg (by omega : ¬ high ≤ 0xffff)]
        exact four codes (by omega) after behind

/-! ## Texts -/

theorem toList_bytes (text : String) :
    (bytes text).toList = text.toList.flatMap String.utf8EncodeChar := by
  rw [bytes, String.toUTF8, ← String.utf8Encode_toList, List.utf8Encode,
    List.toList_data_toByteArray]

theorem flatMap_utf8EncodeChar_lt {left right : List Char} (less : left < right) :
    left.flatMap String.utf8EncodeChar < right.flatMap String.utf8EncodeChar := by
  induction less with
  | nil =>
    rename_i head rest
    rw [List.flatMap_nil, List.flatMap_cons]
    cases written : String.utf8EncodeChar head with
    | nil => exact absurd written String.utf8EncodeChar_ne_nil
    | cons byte bytes => exact List.nil_lt_cons _ _
  | cons _ ih =>
    rw [List.flatMap_cons, List.flatMap_cons]
    exact List.append_left_lt ih
  | rel smaller =>
    rw [List.flatMap_cons, List.flatMap_cons]
    exact utf8EncodeChar_append_lt smaller _ _

/-- One text comes before another when their bytes are compared from the front. -/
def Before (left right : String) : Prop := (bytes left).toList < (bytes right).toList

/-- **Texts are in the order of their bytes.** -/
theorem before_iff_lt {left right : String} : Before left right ↔ left < right := by
  rw [Before, toList_bytes, toList_bytes]
  constructor
  · intro less
    rcases Std.lt_trichotomy left right with smaller | same | larger
    · exact smaller
    · rw [same] at less
      exact absurd less (List.lt_irrefl _)
    · exact absurd (flatMap_utf8EncodeChar_lt larger) (List.lt_asymm less)
  · exact flatMap_utf8EncodeChar_lt

end Enclosure.Text
