/-!
# What a terminal would show

A terminal takes some characters of a text as commands: the control characters,
and the sequences that the escape character starts. What is quoted in a line for
a terminal must not steer it, so the commands are taken out of the line.

An escape sequence goes on to a final character. Some final characters begin
something longer: a control sequence, which has a final character of its own; a
string for the device, which starts with a header; a string of another kind,
which goes on until it is terminated, by a bell in the case of a system string.
The escape character starts a new sequence wherever it stands, and a cancelling
character ends any.

White space of the layout shows also inside an escape sequence and a control
sequence. It interrupts the sequence: the text behind it shows, up to the next
control character, where the sequence is taken up again. A character beyond ASCII
in that text ends the sequence.

`visible_eq_self` says that a text without control characters stays as it is.
-/

set_option autoImplicit false

namespace Enclosure.Text

namespace Terminal

/-- The character is white space of the layout other than a space. -/
def isLayout (c : Char) : Bool := c = '\t' || c = '\n' || c = '\x0c' || c = '\r'

/-- The character shows where it is read as text. -/
def isText (c : Char) : Bool := isLayout c || (' ' ≤ c && c ≤ '~') || 0x80 ≤ c.toNat

/-- The character may stand in a sequence before its final character. -/
def isIntermediate (c : Char) : Bool := ' ' ≤ c && c ≤ '/'

/-- The character may be part of the parameters of a sequence. -/
def isParameter (c : Char) : Bool := '0' ≤ c && c ≤ '?'

/-- The character may end a sequence with parameters. -/
def isFinal (c : Char) : Bool := '@' ≤ c && c ≤ '~'

/-- How far a sequence is read. -/
inductive Stage where
  /-- Behind the escape character. -/
  | escape
  /-- Behind the first characters of an escape sequence. -/
  | escapeTail
  /-- In a control sequence. -/
  | control
  /-- At the start of the header of a device string. -/
  | deviceStart
  /-- In the parameters of a device string. -/
  | deviceParameters
  /-- Behind the parameters of a device string. -/
  | deviceTail
  /-- In a string. -/
  | string
  /-- In a system string. -/
  | systemString
deriving DecidableEq

namespace Stage

/-- White space of the layout shows at this stage. -/
def yieldsToLayout : Stage → Bool
  | escape | escapeTail | control => true
  | _ => false

/-- How far a sequence is read after one more character; nowhere when that
character ends it. A string ends at the octet 0x9c, also inside a character. -/
def after : Stage → Char → Option Stage
  | escape, c =>
    if c = '[' then some control
    else if c = ']' then some systemString
    else if c = 'P' then some deviceStart
    else if c = 'X' || c = '^' || c = '_' then some string
    else if isIntermediate c then some escapeTail
    else if isParameter c || isFinal c then none
    else some escape
  | escapeTail, c => if isParameter c || isFinal c then none else some escapeTail
  | control, c => if isFinal c then none else some control
  | deviceStart, c =>
    if isFinal c then some string
    else if isParameter c then some deviceParameters
    else if isIntermediate c then some deviceTail
    else some deviceStart
  | deviceParameters, c =>
    if isFinal c || ('<' ≤ c && c ≤ '?') then some string
    else if isIntermediate c then some deviceTail
    else some deviceParameters
  | deviceTail, c => if isFinal c || isParameter c then some string else some deviceTail
  | string, c => if (String.utf8EncodeChar c).contains 0x9c then none else some string
  | systemString, c => if c = '\x07' then none else some systemString

end Stage

/-- A terminal in the middle of a text: the sequence that it has not read to the
end, and whether text interrupts that sequence. -/
structure Reading where
  stage : Option Stage := none
  interrupted : Bool := false

/-- Read a character: whether it shows, and how the reading goes on. -/
def Reading.step (reading : Reading) (c : Char) : Bool × Reading :=
  if c = '\x1b' then (false, ⟨some .escape, false⟩)
  else if c = '\x18' || c = '\x1a' then (false, {})
  else
    match reading.stage with
    | none => (isText c, {})
    | some stage =>
      if reading.interrupted then
        if 0x80 ≤ c.toNat then (true, {}) else (isText c, ⟨some stage, isText c⟩)
      else if stage.yieldsToLayout && isLayout c then (true, ⟨some stage, true⟩)
      else (false, ⟨stage.after c, false⟩)

/-- The characters that show. -/
def Reading.visible : Reading → List Char → List Char
  | _, [] => []
  | reading, c :: rest =>
    let (shows, next) := reading.step c
    if shows then c :: next.visible rest else next.visible rest

end Terminal

/-- **What a terminal would show** of a text. -/
def visible (text : String) : String :=
  String.ofList (Terminal.Reading.visible {} text.toList)

/-- A character that shows as text is no command. -/
theorem Terminal.Reading.step_of_isText {c : Char} (h : isText c) :
    Reading.step {} c = (true, {}) := by
  have escape : c ≠ '\x1b' := by rintro rfl; simp [isText, isLayout] at h
  have cancel : c ≠ '\x18' := by rintro rfl; simp [isText, isLayout] at h
  have substitute : c ≠ '\x1a' := by rintro rfl; simp [isText, isLayout] at h
  simp [step, escape, cancel, substitute, h]

/-- Text without commands shows as it is. -/
theorem Terminal.Reading.visible_of_isText {cs : List Char} (h : ∀ c ∈ cs, isText c) :
    Reading.visible {} cs = cs := by
  induction cs with
  | nil => rfl
  | cons c rest ih =>
    simp [visible, step_of_isText (h c (by simp)), ih fun d hd => h d (by simp [hd])]

/-- A text without control characters shows as it is. -/
theorem visible_eq_self {text : String} (h : ∀ c ∈ text.toList, Terminal.isText c) :
    visible text = text := by
  simp [visible, Terminal.Reading.visible_of_isText h]

end Enclosure.Text
