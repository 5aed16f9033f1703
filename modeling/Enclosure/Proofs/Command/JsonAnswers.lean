import Enclosure.Command.Report
import Enclosure.Proofs.Codec.RoundTrip

/-!
# What an answer in JSON says

A command prints its answer as data: the unit that was found, a verdict, or the sites of all
errors. In JSON the text determines the answer, because the text can be read and reading
restores what was written (`Format.json_inj`). A kind or a message may hold quotes,
backslashes and line breaks, or imitate what would follow it; none of this can make two
answers look the same.

A program that reads the output line by line relies on something else as well: a line break
in the text is there to lay it out, and never part of a kind or a message. To say so, a reader
goes through the text from the left and keeps track of whether it is inside a quoted text
(`Value.Place`). A line break lays out the text when it is met outside, next to a bracket or a
comma (`Value.Breaks`). Every piece that the writer puts down is read from outside quoted texts
to outside, and it has no control characters but such line breaks (`Value.Tidy`). Pieces with
this property can be put one behind another, so whole texts have it.
-/

set_option autoImplicit false

namespace Enclosure

namespace Value

/-- Where the reader of a JSON text is. -/
inductive Place where
  /-- Between quoted texts. -/
  | outside
  /-- In a quoted text. -/
  | inside
  /-- In a quoted text, right behind the backslash of an escape. -/
  | escaped
deriving DecidableEq

namespace Place

/-- Where the reader is after one more character. -/
def next : Place → Char → Place
  | outside, c => if c = '"' then inside else outside
  | inside, c => if c = '"' then outside else if c = '\\' then escaped else inside
  | escaped, _ => inside

/-- Where the reader is after several characters. -/
def after (place : Place) (chars : List Char) : Place := chars.foldl next place

@[simp]
theorem after_nil (place : Place) : place.after [] = place := rfl

@[simp]
theorem after_cons (place : Place) (c : Char) (chars : List Char) :
    place.after (c :: chars) = (place.next c).after chars := rfl

@[simp]
theorem after_append (place : Place) (chars others : List Char) :
    place.after (chars ++ others) = (place.after chars).after others :=
  List.foldl_append

end Place

/-- A character between two parts of a text is a line break that lays out the text: it is
outside quoted texts, and it stands right behind an opening bracket or a comma, or only spaces
stand between it and a closing bracket. -/
structure Breaks (before : List Char) (c : Char) (after : List Char) : Prop where
  lineBreak : c = '\n'
  outside : Place.outside.after before = .outside
  atBracket :
    (∃ earlier opener, opener ∈ ['[', '\x7b', ','] ∧ before = earlier ++ [opener]) ∨
      ∃ width closer later, closer ∈ [']', '\x7d'] ∧
        after = List.replicate width ' ' ++ closer :: later

/-- The control characters of a text are the line breaks that lay it out. -/
def LaidOut (chars : List Char) : Prop :=
  ∀ before c after, chars = before ++ c :: after → c.toNat < 32 → Breaks before c after

/-- A piece of a text that starts and ends outside quoted texts and whose control characters
are the line breaks that lay it out. -/
structure Tidy (chars : List Char) : Prop where
  closed : Place.outside.after chars = .outside
  laidOut : LaidOut chars

/-- A line break stays layout when more text is put around it, in front from outside quoted
texts to outside. -/
theorem Breaks.between {before after front back : List Char} {c : Char}
    (breaks : Breaks before c after) (closed : Place.outside.after front = .outside) :
    Breaks (front ++ before) c (after ++ back) := by
  refine ⟨breaks.lineBreak, by rw [Place.after_append, closed, breaks.outside], ?_⟩
  obtain ⟨earlier, opener, opens, rfl⟩ | ⟨width, closer, later, closes, rfl⟩ := breaks.atBracket
  · exact .inl ⟨front ++ earlier, opener, opens, by rw [List.append_assoc]⟩
  · exact .inr ⟨width, closer, later ++ back, closes, by rw [List.append_assoc, List.cons_append]⟩

/-- A character of two pieces is in the first or in the second. -/
theorem split_of_append_eq {chars others before after : List Char} {c : Char}
    (split : chars ++ others = before ++ c :: after) :
    (∃ within, chars = before ++ c :: within ∧ after = within ++ others) ∨
      ∃ within, others = within ++ c :: after ∧ before = chars ++ within := by
  obtain ⟨within, rfl, inSecond⟩ | ⟨within, inFirst, rest⟩ := List.append_eq_append_iff.mp split
  · exact .inr ⟨within, inSecond, rfl⟩
  · obtain ⟨rfl, inSecond⟩ | ⟨later, rfl, behind⟩ := List.cons_eq_append_iff.mp rest
    · exact .inr ⟨[], inSecond, by rw [List.append_nil, inFirst, List.append_nil]⟩
    · exact .inl ⟨later, inFirst, behind⟩

theorem Tidy.append {chars others : List Char} (tidy : Tidy chars) (tidyToo : Tidy others) :
    Tidy (chars ++ others) := by
  refine ⟨by rw [Place.after_append, tidy.closed, tidyToo.closed], ?_⟩
  intro before c after split control
  obtain ⟨within, inFirst, rfl⟩ | ⟨within, inSecond, rfl⟩ := split_of_append_eq split
  · exact (tidy.laidOut before c within inFirst control).between (Place.after_nil .outside)
  · have breaks := tidyToo.laidOut within c after inSecond control
    rw [← List.append_nil after]
    exact breaks.between tidy.closed

/-- A line break that lays out the pieces around it. -/
theorem Breaks.tidy {front back : List Char} {c : Char} (breaks : Breaks front c back)
    (tidyFront : Tidy front) (tidyBack : Tidy back) : Tidy (front ++ c :: back) := by
  have broken : Place.outside.after (front ++ [c]) = .outside := by
    rw [Place.after_append, breaks.outside, breaks.lineBreak]
    rfl
  constructor
  · rw [List.append_cons, Place.after_append, broken, tidyBack.closed]
  · intro before other after split control
    obtain ⟨within, inFront, rfl⟩ | ⟨within, behind, rfl⟩ := split_of_append_eq split
    · exact (tidyFront.laidOut before other within inFront control).between
        (Place.after_nil .outside)
    · obtain ⟨rfl, here⟩ | ⟨within, rfl, inBack⟩ := List.cons_eq_append_iff.mp behind
      · obtain ⟨rfl, rfl⟩ := List.cons.inj here
        rw [List.append_nil]
        exact breaks
      · have later := tidyBack.laidOut within other after inBack control
        rw [List.append_cons, ← List.append_nil after]
        exact later.between broken

/-- The character is not a control character. -/
def isPrinted (c : Char) : Bool := 32 ≤ c.toNat

/-- The character is neither a quote nor a control character. -/
def isPlain (c : Char) : Bool := c != '"' && isPrinted c

theorem laidOut_of_all_isPrinted {chars : List Char} (printed : chars.all isPrinted = true) :
    LaidOut chars := by
  intro before c after split control
  rw [split, List.all_append, List.all_cons, Bool.and_eq_true, Bool.and_eq_true] at printed
  exact absurd control (Nat.not_lt.mpr (of_decide_eq_true printed.2.1))

theorem tidy_of_plain {chars : List Char} (plain : chars.all isPlain = true) : Tidy chars := by
  constructor
  · induction chars with
    | nil => rfl
    | cons c chars ih =>
      rw [List.all_cons, Bool.and_eq_true, isPlain, Bool.and_eq_true, bne_iff_ne] at plain
      have here : Place.outside.next c = .outside := if_neg plain.1.1
      rw [Place.after_cons, here]
      exact ih plain.2
  · refine laidOut_of_all_isPrinted (List.all_eq_true.mpr fun c member => ?_)
    exact (Bool.and_eq_true_iff.mp (List.all_eq_true.mp plain c member)).2

/-! ## Quoted texts -/

theorem lowerHexDigit_ordinary : ∀ digit < 16,
    Text.lowerHexDigit digit ≠ '"' ∧ Text.lowerHexDigit digit ≠ '\\' ∧
      isPrinted (Text.lowerHexDigit digit) = true := by
  decide

/-- A character in a quoted text is written without control characters, and the reader is
still in the quoted text behind it. -/
theorem after_jsonEscape (c : Char) :
    Place.inside.after (jsonEscape c) = .inside ∧ (jsonEscape c).all isPrinted = true := by
  unfold jsonEscape
  split_ifs with quote backslash _ _ _ _ _ control
  -- An escape of one letter is the same for every text, so it can be read through.
  any_goals exact ⟨rfl, rfl⟩
  · obtain ⟨highQuote, highBackslash, high⟩ := lowerHexDigit_ordinary (c.toNat / 16) (by omega)
    obtain ⟨lowQuote, lowBackslash, low⟩ := lowerHexDigit_ordinary (c.toNat % 16) (by omega)
    constructor
    · simp [Place.next, highQuote, highBackslash, lowQuote, lowBackslash]
    · have escape : ['\\', 'u', '0', '0'].all isPrinted = true := rfl
      simpa [high, low] using escape
  · constructor
    · simp [Place.next, quote, backslash]
    · simpa [isPrinted] using control

theorem after_escaped (content : List Char) :
    Place.inside.after (content.flatMap jsonEscape) = .inside := by
  induction content with
  | nil => rfl
  | cons c content ih =>
    rw [List.flatMap_cons, Place.after_append, (after_jsonEscape c).1, ih]

/-- A quoted text has no control characters. -/
theorem all_isPrinted_jsonQuoted (content : String) :
    (jsonQuoted content).all isPrinted = true := by
  have quote : isPrinted '"' = true := rfl
  have escaped : (content.toList.flatMap jsonEscape).all isPrinted = true := by
    rw [List.all_flatMap, List.all_eq_true]
    exact fun c _ => (after_jsonEscape c).2
  rw [jsonQuoted, List.cons_append, List.all_cons, List.all_append, quote, escaped]
  rfl

theorem tidy_jsonQuoted (content : String) : Tidy (jsonQuoted content) := by
  constructor
  · have opened : Place.outside.next '"' = .inside := rfl
    rw [jsonQuoted, List.cons_append, Place.after_cons, Place.after_append, opened, after_escaped]
    rfl
  · exact laidOut_of_all_isPrinted (all_isPrinted_jsonQuoted content)

/-! ## Values -/

theorem tidy_spaces (width : Nat) : Tidy (List.replicate width ' ') := by
  refine tidy_of_plain (List.all_eq_true.mpr fun c member => ?_)
  rw [(List.mem_replicate.mp member).2]
  rfl

/-- The line break behind an opening bracket or a comma. -/
theorem tidy_opening {opener : Char} (opens : opener ∈ ['[', '\x7b', ',']) (depth : Nat) :
    Tidy (opener :: jsonBreak depth) := by
  have front : Tidy [opener] := by
    simp only [List.mem_cons, List.not_mem_nil, or_false] at opens
    obtain rfl | rfl | rfl := opens <;> exact tidy_of_plain rfl
  have breaks : Breaks [opener] '\n' (List.replicate (2 * depth) ' ') :=
    ⟨rfl, front.closed, .inl ⟨[], opener, opens, rfl⟩⟩
  exact breaks.tidy front (tidy_spaces _)

/-- The line break in front of a closing bracket. -/
theorem tidy_closing {closer : Char} (closes : closer ∈ [']', '\x7d']) (depth : Nat) :
    Tidy (jsonBreak depth ++ [closer]) := by
  have back : Tidy [closer] := by
    simp only [List.mem_cons, List.not_mem_nil, or_false] at closes
    obtain rfl | rfl := closes <;> exact tidy_of_plain rfl
  have breaks : Breaks [] '\n' (List.replicate (2 * depth) ' ' ++ [closer]) :=
    ⟨rfl, rfl, .inr ⟨2 * depth, closer, [], closes, rfl⟩⟩
  exact breaks.tidy (tidy_of_plain rfl) ((tidy_spaces _).append back)

/-- The text of a number consists of digits and a sign. -/
theorem numeric_of_mem_repr {number : Int} {c : Char} (member : c ∈ number.repr.toList) :
    c.isDigit = true ∨ c = '-' := by
  cases number with
  | ofNat number =>
    rw [Int.repr, Nat.toList_repr] at member
    exact .inl (Nat.isDigit_of_mem_toDigits (by decide) (by decide) member)
  | negSucc number =>
    have written : (Int.negSucc number).repr.toList = '-' :: Nat.toDigits 10 (number + 1) := by
      simp [Int.repr]
    rw [written, List.mem_cons] at member
    refine member.symm.imp ?_ id
    exact Nat.isDigit_of_mem_toDigits (by decide) (by decide)

theorem tidy_number (number : Int) : Tidy number.repr.toList := by
  refine tidy_of_plain (List.all_eq_true.mpr fun c member => ?_)
  rw [isPlain, isPrinted, Bool.and_eq_true, bne_iff_ne, decide_eq_true_eq]
  obtain digit | rfl := numeric_of_mem_repr member
  · have low : '0'.toNat = 48 := rfl
    have above := (Char.isDigit_iff_toNat.mp digit).1
    refine ⟨?_, by omega⟩
    rintro rfl
    exact absurd digit (by decide)
  · decide

theorem tidy_jsonItems {items : List Value}
    (each : ∀ item ∈ items, ∀ depth, Tidy (item.jsonChars depth)) (depth : Nat) :
    Tidy (jsonItems depth items) := by
  induction items with
  | nil => exact tidy_of_plain (by rw [jsonItems]; rfl)
  | cons item items ih =>
    have comma := tidy_opening (by decide : ',' ∈ _) depth
    have here := each item List.mem_cons_self depth
    have later := ih fun other member => each other (List.mem_cons_of_mem _ member)
    rw [jsonItems]
    exact (comma.append here).append later

/-- A field: its name, a colon and a space, and its value. -/
theorem tidy_field (name : String) {chars : List Char} (tidy : Tidy chars) :
    Tidy (jsonQuoted name ++ [':', ' '] ++ chars) := by
  have colon : Tidy [':', ' '] := tidy_of_plain rfl
  exact ((tidy_jsonQuoted name).append colon).append tidy

theorem tidy_jsonFields {fields : List (String × Value)}
    (each : ∀ field ∈ fields, ∀ depth, Tidy (field.2.jsonChars depth)) (depth : Nat) :
    Tidy (jsonFields depth fields) := by
  induction fields with
  | nil => exact tidy_of_plain (by rw [jsonFields]; rfl)
  | cons field fields ih =>
    have comma := tidy_opening (by decide : ',' ∈ _) depth
    have here := tidy_field field.1 (each field List.mem_cons_self depth)
    have later := ih fun other member => each other (List.mem_cons_of_mem _ member)
    have all := comma.append (here.append later)
    simpa [jsonFields] using all

/-- **The control characters in the text of regular data lay it out**, at every depth. -/
theorem Regular.tidy_jsonChars {value : Value} (regular : Regular value) :
    ∀ depth, Tidy (value.jsonChars depth) := by
  induction regular with
  | null =>
    intro depth
    exact tidy_of_plain (by rw [jsonChars]; rfl)
  | bool truth =>
    intro depth
    cases truth <;> exact tidy_of_plain (by rw [jsonChars]; rfl)
  | number number =>
    intro depth
    rw [jsonChars, Int.toString_eq_repr]
    exact tidy_number number
  | text content =>
    intro depth
    rw [jsonChars]
    exact tidy_jsonQuoted content
  | @list items _ ih =>
    intro depth
    cases items with
    | nil => exact tidy_of_plain (by rw [jsonChars]; rfl)
    | cons item items =>
      have opened := tidy_opening (by decide : '[' ∈ _) (depth + 1)
      have first := ih item List.mem_cons_self (depth + 1)
      have later := tidy_jsonItems (fun other member => ih other (List.mem_cons_of_mem _ member))
        (depth + 1)
      have closed := tidy_closing (by decide : ']' ∈ _) depth
      have all := opened.append (first.append (later.append closed))
      simpa [jsonChars] using all
  | @record fields _ _ ih =>
    intro depth
    cases fields with
    | nil => exact tidy_of_plain (by rw [jsonChars]; rfl)
    | cons field fields =>
      have opened := tidy_opening (by decide : '\x7b' ∈ _) (depth + 1)
      have first := tidy_field field.1 (ih field List.mem_cons_self (depth + 1))
      have later := tidy_jsonFields (fun other member => ih other (List.mem_cons_of_mem _ member))
        (depth + 1)
      have closed := tidy_closing (by decide : '\x7d' ∈ _) depth
      have all := opened.append (first.append (later.append closed))
      simpa [jsonChars] using all

end Value

namespace Format

/-- Different things of one type have different texts. -/
theorem json_inj {format : Format} {thing other : format.Carrier}
    (same : (format.write thing).json = (format.write other).json) : thing = other := by
  have read := format.readText_json (.same (format.write thing))
  rw [same, format.readText_json (.same (format.write other))] at read
  exact (Option.some.inj read).symm

theorem laidOut_json (format : Format) (thing : format.Carrier) :
    Value.LaidOut (format.write thing).json.toList := by
  rw [Value.json, String.toList_ofList]
  exact ((format.regular_write thing).tidy_jsonChars 0).laidOut

end Format

namespace Command.Format

/-- **The JSON text of an answer determines the answer.** Different findings have different
texts, and so have different verdicts and different lists of sites, whatever kinds and
messages they hold. In each of these texts every control character is a line break, and every
line break is layout. -/
theorem json_text_determines_answer :
    Function.Injective (fun finding : Finding => json.render finding.toValue) ∧
    Function.Injective (fun verdict : Verdict => json.render verdict.toValue) ∧
    Function.Injective (fun sites : List ErrorSite => json.render (ErrorSite.listToValue sites)) ∧
    (∀ finding : Finding, Value.LaidOut (json.render finding.toValue).toList) ∧
    (∀ verdict : Verdict, Value.LaidOut (json.render verdict.toValue).toList) ∧
    ∀ sites : List ErrorSite,
      Value.LaidOut (json.render (ErrorSite.listToValue sites)).toList := by
  refine ⟨?_, ?_, ?_, ?_, ?_, ?_⟩
  · intro finding other same
    exact Enclosure.Format.finding.json_inj same
  · intro verdict other same
    exact Enclosure.Format.verdict.json_inj same
  · intro sites others same
    exact Enclosure.Format.errorSites.json_inj same
  · exact Enclosure.Format.finding.laidOut_json
  · exact Enclosure.Format.verdict.laidOut_json
  · exact Enclosure.Format.errorSites.laidOut_json

/-- A message that closes its quotes, breaks the line and imitates the field of an accepted
text, with a control character at its end. It is written as one quoted text, on one line. -/
theorem json_text_determines_answer_of_imitation :
    let imitating : Verdict := ⟨false, "\",\n  \"valid\": true\x01"⟩
    json.render imitating.toValue ≠ json.render Verdict.accepted.toValue ∧
      Value.LaidOut (json.render imitating.toValue).toList ∧
      json.render imitating.toValue = "\x7b\n  \"valid\": false,\n" ++
        "  \"error\": \"\\\",\\n  \\\"valid\\\": true\\u0001\"\n\x7d" := by
  intro imitating
  obtain ⟨-, distinct, -, -, laidOut, -⟩ := json_text_determines_answer
  refine ⟨?_, laidOut imitating, by decide +kernel⟩
  intro same
  exact absurd (distinct same) (by decide)

end Command.Format

end Enclosure
