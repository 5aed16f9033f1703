/-!
# Columns in a text

A column counts from the last line break before a place, or from the start of
the text when there is none. Places are byte offsets into the UTF-8 form of the
text; the column can be counted in bytes or in characters. A character consists
of one leading byte and of continuation bytes after it, so counting characters
means counting the bytes that do not continue one.

Both counts go back from the place to the line break and no further.
-/

set_option autoImplicit false

namespace Enclosure.Text

/-- The byte continues a character that an earlier byte began. -/
def isContinuation (byte : UInt8) : Bool := 0x80 ≤ byte && byte < 0xC0

/-- The bytes of a text in its UTF-8 form. -/
def bytes (text : String) : Array UInt8 := text.toUTF8.data

/-- How many bytes lie between the last line break before an offset and the
offset. -/
def byteColumn (bytes : Array UInt8) : (offset : Nat) → Nat
  | 0 => 0
  | offset + 1 =>
    match bytes[offset]? with
    | none => byteColumn bytes offset
    | some byte => if byte = 10 then 0 else byteColumn bytes offset + 1

/-- How many characters begin between the last line break before an offset and
the offset. -/
def charColumn (bytes : Array UInt8) : (offset : Nat) → Nat
  | 0 => 0
  | offset + 1 =>
    match bytes[offset]? with
    | none => charColumn bytes offset
    | some byte =>
      if byte = 10 then 0
      else if isContinuation byte then charColumn bytes offset
      else charColumn bytes offset + 1

end Enclosure.Text
