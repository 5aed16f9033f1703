import Enclosure.Value.Json
import Enclosure.Value.Json.Reader
import Mathlib.Data.List.TakeDrop
import Mathlib.Data.List.Nodup
import Mathlib.Tactic.IntervalCases

/-!
# JSON text is read as the data it was written from

Writing data as JSON text and reading the text gives the data back, if the text can hold
them: their numbers are integers, and no record has two fields of one name
(`Value.Regular`). Of two such fields the reader would keep the later, and a number with a
fraction is a text of its own that need not be a number.

The proof follows the writer. A character is written as itself or as an escape that is read
in one step (`Value.jsonEscape_cases`), so a quoted text reads back whatever its characters
are (`Value.readQuoted?_escaped`). A number ends where no digit follows, and behind a value
the writer only puts a comma or a line break (`Value.Delimited`). The items of a list and
the fields of a record are read one after another: one lemma says what one step does
(`Value.readItems?_item`, `Value.readFields?_field`), and an induction goes through all of
them. Fuel is counted in characters of the text, two for each.
-/

set_option autoImplicit false

namespace Enclosure

/-! ## Digits -/

namespace Text

/-- A number is what its decimal digits write. -/
theorem decimalValue_toDigits (number : Nat) : decimalValue (Nat.toDigits 10 number) = number :=
  Nat.ofDigitChars_ten_toDigits

/-- The digits of a positive number do not start with a zero. -/
theorem head?_toDigits_ne_zero {number : Nat} (positive : 0 < number) :
    (Nat.toDigits 10 number).head? ≠ some '0' := by
  induction number using Nat.strongRecOn with
  | ind number ih =>
    rw [Nat.toDigits_eq_if (by decide)]
    split
    · interval_cases number <;> decide
    · rw [List.head?_append_of_ne_nil _ Nat.toDigits_ne_nil]
      exact ih (number / 10) (by omega) (by omega)

/-- Several digits of a number do not start with a zero. -/
theorem not_leading_zero (number : Nat) :
    ¬ (1 < (Nat.toDigits 10 number).length ∧ (Nat.toDigits 10 number).head? = some '0') := by
  rintro ⟨long, zero⟩
  refine absurd zero (head?_toDigits_ne_zero (Nat.pos_of_ne_zero ?_))
  rintro rfl
  rw [Nat.toDigits_zero] at long
  contradiction

theorem hexValue?_lowerHexDigit : ∀ digit < 16, hexValue? (lowerHexDigit digit) = some digit := by
  decide

end Text

namespace Value

/-! ## Quoted texts -/

/-- A control character is read from its code. -/
theorem readUnicode?_of_control {c : Char} (control : c.toNat < 32) (rest : List Char) :
    readUnicode? ('0' :: '0' :: Text.lowerHexDigit (c.toNat / 16) ::
      Text.lowerHexDigit (c.toNat % 16) :: rest) = some (c, rest) := by
  have zero : Text.hexValue? '0' = some 0 := by decide
  have high := Text.hexValue?_lowerHexDigit (c.toNat / 16) (by omega)
  have low := Text.hexValue?_lowerHexDigit (c.toNat % 16) (by omega)
  have code : 16 * (c.toNat / 16) + c.toNat % 16 = c.toNat := by omega
  have unit : c.toNat < 0xD800 := by omega
  simp [readUnicode?, readUnit?, zero, high, low, code, unit]

/-- A character is written as itself, or as an escape that is read as the character. -/
theorem jsonEscape_cases (c : Char) :
    (jsonEscape c = [c] ∧ c ≠ '"' ∧ c ≠ '\\') ∨
      ∃ escape, jsonEscape c = '\\' :: escape ∧
        ∀ rest, readEscape? (escape ++ rest) = some (c, rest) := by
  unfold jsonEscape
  split_ifs with quote backslash newline tab carriage backspace feed control
  · subst quote
    exact .inr ⟨_, rfl, fun _ => rfl⟩
  · subst backslash
    exact .inr ⟨_, rfl, fun _ => rfl⟩
  · subst newline
    exact .inr ⟨_, rfl, fun _ => rfl⟩
  · subst tab
    exact .inr ⟨_, rfl, fun _ => rfl⟩
  · subst carriage
    exact .inr ⟨_, rfl, fun _ => rfl⟩
  · obtain rfl : c = Char.ofNat 8 := by rw [← backspace, Char.ofNat_toNat]
    exact .inr ⟨_, rfl, fun _ => rfl⟩
  · obtain rfl : c = Char.ofNat 12 := by rw [← feed, Char.ofNat_toNat]
    exact .inr ⟨_, rfl, fun _ => rfl⟩
  · exact .inr ⟨_, rfl, readUnicode?_of_control control⟩
  · exact .inl ⟨rfl, quote, backslash⟩

/-- One step through a quoted text. -/
theorem readQuoted?_jsonEscape (c : Char) (fuel : Nat) (reversed rest : List Char) :
    readQuoted? (fuel + 1) reversed (jsonEscape c ++ rest) =
      readQuoted? fuel (c :: reversed) rest := by
  obtain ⟨itself, notQuote, notBackslash⟩ | ⟨escape, escaped, reads⟩ := jsonEscape_cases c
  · simp [itself, readQuoted?]
  · simp [escaped, readQuoted?, reads]

theorem length_le_length_escaped (content : List Char) :
    content.length ≤ (content.flatMap jsonEscape).length := by
  induction content with
  | nil => simp
  | cons c content ih =>
    have one : 0 < (jsonEscape c).length := by
      obtain ⟨itself, -⟩ | ⟨escape, escaped, -⟩ := jsonEscape_cases c
      · simp [itself]
      · simp [escaped]
    rw [List.flatMap_cons, List.length_append, List.length_cons]
    omega

/-- **A quoted text reads back**, whatever its characters. -/
theorem readQuoted?_escaped (content : List Char) {fuel : Nat} (reversed rest : List Char)
    (enough : content.length < fuel) :
    readQuoted? fuel reversed (content.flatMap jsonEscape ++ '"' :: rest) =
      some (String.ofList (reversed.reverse ++ content), rest) := by
  induction content generalizing fuel reversed with
  | nil =>
    obtain ⟨fuel, rfl⟩ := Nat.exists_eq_add_one.mpr enough
    simp [readQuoted?]
  | cons c content ih =>
    obtain ⟨fuel, rfl⟩ := Nat.exists_eq_add_one.mpr (Nat.zero_lt_of_lt enough)
    rw [List.flatMap_cons, List.append_assoc, readQuoted?_jsonEscape,
      ih (c :: reversed) (Nat.lt_of_succ_lt_succ enough)]
    simp

/-! ## Numbers -/

/-- Nothing follows, or a comma or a line break. -/
def Delimited (rest : List Char) : Prop :=
  rest = [] ∨ ∃ more, rest = ',' :: more ∨ rest = '\n' :: more

theorem readDigits?_append {digits rest : List Char} (nonempty : digits ≠ [])
    (allDigits : ∀ c ∈ digits, c.isDigit = true) (delimited : Delimited rest) :
    readDigits? (digits ++ rest) = some (digits, rest) := by
  have spanned : (digits ++ rest).span Char.isDigit = (digits, rest) := by
    rw [List.span_eq_takeWhile_dropWhile, List.takeWhile_append_of_pos allDigits,
      List.dropWhile_append_of_pos allDigits]
    obtain rfl | ⟨more, rfl | rfl⟩ := delimited <;> simp
  rw [readDigits?, spanned]
  split
  · rename_i empty
    exact absurd (congrArg Prod.fst empty) nonempty
  · rfl

theorem readFraction?_of_delimited {rest : List Char} (delimited : Delimited rest) :
    readFraction? rest = some ([], rest) := by
  obtain rfl | ⟨more, rfl | rfl⟩ := delimited <;> rfl

theorem readExponent?_of_delimited {rest : List Char} (delimited : Delimited rest) :
    readExponent? rest = some ([], rest) := by
  obtain rfl | ⟨more, rfl | rfl⟩ := delimited <;> rfl

/-- **A number reads back**: its digits have no zero in front, and no fraction or exponent
follows them. -/
theorem readNumber?_repr (value : Int) {rest : List Char} (delimited : Delimited rest) :
    readNumber? (value.repr.toList ++ rest) = some (.number value, rest) := by
  have fraction := readFraction?_of_delimited delimited
  have exponent := readExponent?_of_delimited delimited
  have digits : ∀ number, readDigits? (Nat.toDigits 10 number ++ rest) =
      some (Nat.toDigits 10 number, rest) := fun number =>
    readDigits?_append Nat.toDigits_ne_nil
      (fun c => Nat.isDigit_of_mem_toDigits (by decide) (by decide)) delimited
  cases value with
  | ofNat number =>
    have leads := Text.not_leading_zero number
    simp only [Int.repr, Nat.toList_repr]
    rw [readNumber?]
    · simp [digits, fraction, exponent, Text.decimalValue_toDigits, leads]
    · -- A sign would be the first of the digits.
      intro more signed
      have head : (Nat.toDigits 10 number).head? = some '-' := by
        rw [← List.head?_append_of_ne_nil _ Nat.toDigits_ne_nil, signed, List.head?_cons]
      have sign : Char.isDigit '-' = true :=
        Nat.isDigit_of_mem_toDigits (by decide) (by decide) (List.mem_of_head? head)
      contradiction
  | negSucc number =>
    have repr : (Int.negSucc number).repr.toList = '-' :: Nat.toDigits 10 (number + 1) := by
      simp [Int.repr]
    have leads := Text.not_leading_zero (number + 1)
    have negated : -((number + 1 : Nat) : Int) = Int.negSucc number := by omega
    rw [repr]
    simpa [readNumber?, digits, fraction, exponent, Text.decimalValue_toDigits, leads] using negated

/-- The text of a number starts with a digit or a sign. -/
theorem exists_repr_eq_cons (value : Int) :
    ∃ c chars, value.repr.toList = c :: chars ∧ (c.isDigit = true ∨ c = '-') := by
  cases value with
  | ofNat number =>
    obtain ⟨c, chars, digits⟩ := List.exists_cons_of_ne_nil Nat.toDigits_ne_nil
    refine ⟨c, chars, Nat.toList_repr.trans digits, .inl ?_⟩
    exact Nat.isDigit_of_mem_toDigits (by decide) (by decide) (digits ▸ List.mem_cons_self)
  | negSucc number => exact ⟨'-', Nat.toDigits 10 (number + 1), by simp [Int.repr], .inr rfl⟩

/-! ## Layout -/

/-- The character is not layout. -/
abbrev Visible (c : Char) : Prop := (c == ' ' || c == '\t' || c == '\n' || c == '\r') = false

theorem visible_of_numeric {c : Char} (numeric : c.isDigit = true ∨ c = '-') : Visible c := by
  by_contra layout
  simp only [Bool.not_eq_false, Bool.or_eq_true, beq_iff_eq] at layout
  obtain ((rfl | rfl) | rfl) | rfl := layout <;> simp at numeric

theorem skipLayout_cons {c : Char} (visible : Visible c) (chars : List Char) :
    skipLayout (c :: chars) = c :: chars := by
  rw [skipLayout, List.dropWhile_cons_of_neg]
  simp only [visible, Bool.false_eq_true, not_false_eq_true]

@[simp]
theorem skipLayout_jsonBreak (depth : Nat) (chars : List Char) :
    skipLayout (jsonBreak depth ++ chars) = skipLayout chars := by
  refine List.dropWhile_append_of_pos fun c member => ?_
  simp only [jsonBreak, List.mem_cons, List.mem_replicate] at member
  obtain rfl | ⟨-, rfl⟩ := member <;> rfl

theorem skipLayout_space (chars : List Char) : skipLayout (' ' :: chars) = skipLayout chars := rfl

/-- Reading a value starts behind the layout. -/
theorem readValue?_congr {chars others : List Char} (same : skipLayout chars = skipLayout others)
    (fuel : Nat) : readValue? fuel chars = readValue? fuel others := by
  cases fuel with
  | zero => simp [readValue?]
  | succ fuel => rw [readValue?, readValue?, same]

/-- What starts like a number is read as a number. -/
theorem readValue?_of_numeric {c : Char} (numeric : c.isDigit = true ∨ c = '-')
    (fuel : Nat) (chars : List Char) :
    readValue? (fuel + 1) (c :: chars) = readNumber? (c :: chars) := by
  rw [readValue?, skipLayout_cons (visible_of_numeric numeric)]
  split <;> simp_all

/-! ## Values -/

/-- Data that JSON text holds as they are: the numbers are integers, and no record has two fields
of one name. -/
inductive Regular : Value → Prop where
  | null : Regular .null
  | bool (truth : Bool) : Regular (.bool truth)
  | number (value : Int) : Regular (.number value)
  | text (content : String) : Regular (.text content)
  | list {items : List Value} (each : ∀ item ∈ items, Regular item) : Regular (.list items)
  | record {fields : List (String × Value)} (distinct : (fields.map (·.1)).Nodup)
      (each : ∀ field ∈ fields, Regular field.2) : Regular (.record fields)

attribute [simp] Regular.null Regular.bool Regular.number Regular.text

@[simp]
theorem regular_list_iff {items : List Value} :
    Regular (.list items) ↔ ∀ item ∈ items, Regular item := by
  constructor
  · rintro ⟨⟩
    assumption
  · exact .list

@[simp]
theorem regular_record_iff {fields : List (String × Value)} :
    Regular (.record fields) ↔
      (fields.map (·.1)).Nodup ∧ ∀ field ∈ fields, Regular field.2 := by
  constructor
  · rintro ⟨⟩
    exact ⟨by assumption, by assumption⟩
  · exact fun ⟨distinct, each⟩ => .record distinct each

/-- The text that was written of the data is read as the data, whatever follows behind a
delimiter. -/
def ReadsBack (value : Value) : Prop :=
  ∀ (depth : Nat) {fuel : Nat} {rest : List Char}, Delimited rest →
    2 * (value.jsonChars depth).length ≤ fuel →
    readValue? (fuel + 1) (value.jsonChars depth ++ rest) = some (value, rest)

theorem delimited_jsonBreak (depth : Nat) (chars : List Char) :
    Delimited (jsonBreak depth ++ chars) :=
  .inr ⟨_, .inr rfl⟩

theorem delimited_jsonItems (depth outer : Nat) (items : List Value) (chars : List Char) :
    Delimited (jsonItems depth items ++ (jsonBreak outer ++ chars)) := by
  cases items with
  | nil => exact delimited_jsonBreak outer chars
  | cons item items => exact .inr ⟨_, .inl (by rw [jsonItems, List.append_assoc]; rfl)⟩

theorem delimited_jsonFields (depth outer : Nat) (fields : List (String × Value))
    (chars : List Char) :
    Delimited (jsonFields depth fields ++ (jsonBreak outer ++ chars)) := by
  cases fields with
  | nil => exact delimited_jsonBreak outer chars
  | cons field fields => exact .inr ⟨_, .inl (by rw [jsonFields, List.append_assoc]; rfl)⟩

/-- A value behind a line break. -/
theorem ReadsBack.behind_jsonBreak {value : Value} (readsBack : ReadsBack value) (depth : Nat)
    {fuel : Nat} {rest : List Char} (delimited : Delimited rest)
    (enough : 2 * (value.jsonChars depth).length ≤ fuel) :
    readValue? (fuel + 1) (jsonBreak depth ++ (value.jsonChars depth ++ rest)) =
      some (value, rest) := by
  rw [readValue?_congr (skipLayout_jsonBreak depth _)]
  exact readsBack depth delimited enough

/-- One step through the items of a list. -/
theorem readItems?_item {item : Value} (readsBack : ReadsBack item) (depth : Nat)
    {fuel : Nat} {rest : List Char} (delimited : Delimited rest)
    (enough : 2 * (item.jsonChars depth).length ≤ fuel) (reversed : List Value) :
    readItems? (fuel + 2) reversed (jsonBreak depth ++ (item.jsonChars depth ++ rest)) =
      match skipLayout rest with
      | ',' :: more => readItems? (fuel + 1) (item :: reversed) more
      | ']' :: more => some (.list (item :: reversed).reverse, more)
      | _ => none := by
  have here := readsBack.behind_jsonBreak depth delimited enough
  rw [readItems?, here]
  rfl

/-- The items of a list, from one of them on. -/
theorem readItems?_written (items : List Value) {item : Value}
    (each : ∀ other ∈ item :: items, ReadsBack other) (depth outer : Nat) {fuel : Nat}
    (reversed : List Value) (rest : List Char)
    (enough : 2 * ((item.jsonChars depth).length + (jsonItems depth items).length) ≤ fuel) :
    readItems? (fuel + 2) reversed (jsonBreak depth ++ (item.jsonChars depth ++
        (jsonItems depth items ++ (jsonBreak outer ++ ']' :: rest)))) =
      some (.list (reversed.reverse ++ item :: items), rest) := by
  induction items generalizing item fuel reversed with
  | nil =>
    rw [readItems?_item (each item List.mem_cons_self) depth
      (delimited_jsonItems depth outer [] _) (by omega)]
    simp [jsonItems, skipLayout_cons]
  | cons next items ih =>
    rw [readItems?_item (each item List.mem_cons_self) depth
      (delimited_jsonItems depth outer (next :: items) _) (by omega)]
    simp only [jsonItems, List.cons_append, List.append_assoc, List.length_cons,
      List.length_append] at enough ⊢
    obtain ⟨fuel, rfl⟩ : ∃ spare, fuel = spare + 1 := Nat.exists_eq_add_one.mpr (by omega)
    rw [skipLayout_cons rfl]
    simpa using ih (fun other member => each other (List.mem_cons_of_mem _ member))
      (item :: reversed) (by omega)

theorem putField_of_not_mem {fields : List (String × Value)} {field : String × Value}
    (new : field.1 ∉ fields.map (·.1)) : putField fields field.1 field.2 = fields ++ [field] := by
  rw [putField, List.filter_eq_self.mpr]
  intro other member
  simp only [bne_iff_ne, ne_eq]
  intro same
  exact new (same ▸ List.mem_map_of_mem member)

/-- One step through the fields of a record. -/
theorem readFields?_field {field : String × Value} (readsBack : ReadsBack field.2)
    (depth : Nat) {fuel : Nat} {rest : List Char} (delimited : Delimited rest)
    (enough : 2 * ((jsonQuoted field.1).length + (field.2.jsonChars depth).length) ≤ fuel)
    {before : List (String × Value)} (new : field.1 ∉ before.map (·.1)) :
    readFields? (fuel + 2) before (jsonBreak depth ++ (jsonQuoted field.1 ++ ':' :: ' ' ::
        (field.2.jsonChars depth ++ rest))) =
      match skipLayout rest with
      | ',' :: more => readFields? (fuel + 1) (before ++ [field]) more
      | '\x7d' :: more => some (.record (before ++ [field]), more)
      | _ => none := by
  have quoted : readQuoted? (fuel + 1) [] (field.1.toList.flatMap jsonEscape ++ '"' :: ':' :: ' ' ::
      (field.2.jsonChars depth ++ rest)) =
      some (field.1, ':' :: ' ' :: (field.2.jsonChars depth ++ rest)) := by
    have shorter := length_le_length_escaped field.1.toList
    simp only [jsonQuoted, List.cons_append, List.length_cons, List.length_append] at enough
    simpa using readQuoted?_escaped field.1.toList []
      (':' :: ' ' :: (field.2.jsonChars depth ++ rest)) (by omega)
  have here : readValue? (fuel + 1) (' ' :: (field.2.jsonChars depth ++ rest)) =
      some (field.2, rest) := by
    rw [readValue?_congr (skipLayout_space _)]
    exact readsBack depth delimited (by omega)
  rw [readFields?, skipLayout_jsonBreak, jsonQuoted]
  simp only [List.cons_append, List.append_assoc, List.nil_append]
  rw [skipLayout_cons rfl]
  simp only [quoted, Option.bind_eq_bind, Option.bind_some]
  rw [skipLayout_cons rfl]
  simp only [here, putField_of_not_mem new, Option.bind_some]
  rfl

theorem fst_not_mem_of_nodup {before after : List (String × Value)} {field : String × Value}
    (distinct : ((before ++ field :: after).map (·.1)).Nodup) :
    field.1 ∉ before.map (·.1) := by
  rw [List.map_append, List.map_cons, List.nodup_append] at distinct
  exact fun listed => distinct.2.2 field.1 listed field.1 List.mem_cons_self rfl

/-- The fields of a record, from one of them on. -/
theorem readFields?_written (fields : List (String × Value)) {field : String × Value}
    (each : ∀ other ∈ field :: fields, ReadsBack other.2) (depth outer : Nat) {fuel : Nat}
    (before : List (String × Value)) (rest : List Char)
    (distinct : ((before ++ field :: fields).map (·.1)).Nodup)
    (enough : 2 * ((jsonQuoted field.1).length + (field.2.jsonChars depth).length +
      (jsonFields depth fields).length) ≤ fuel) :
    readFields? (fuel + 2) before (jsonBreak depth ++ (jsonQuoted field.1 ++ ':' :: ' ' ::
        (field.2.jsonChars depth ++
          (jsonFields depth fields ++ (jsonBreak outer ++ '\x7d' :: rest))))) =
      some (.record (before ++ field :: fields), rest) := by
  induction fields generalizing field fuel before with
  | nil =>
    rw [readFields?_field (each field List.mem_cons_self) depth
      (delimited_jsonFields depth outer [] _) (by omega) (fst_not_mem_of_nodup distinct)]
    simp [jsonFields, skipLayout_cons]
  | cons next fields ih =>
    rw [readFields?_field (each field List.mem_cons_self) depth
      (delimited_jsonFields depth outer (next :: fields) _) (by omega)
      (fst_not_mem_of_nodup distinct)]
    simp only [jsonFields, List.cons_append, List.append_assoc, List.nil_append, List.length_cons,
      List.length_append] at enough ⊢
    obtain ⟨fuel, rfl⟩ : ∃ spare, fuel = spare + 1 := Nat.exists_eq_add_one.mpr (by omega)
    rw [skipLayout_cons rfl]
    simpa using ih (fun other member => each other (List.mem_cons_of_mem _ member))
      (before ++ [field]) (by simpa using distinct) (by omega)

/-- No value starts with layout or with the end of a list. -/
theorem Regular.jsonChars_eq_cons {value : Value} (regular : Regular value) (depth : Nat) :
    ∃ c chars, value.jsonChars depth = c :: chars ∧ Visible c ∧ c ≠ ']' := by
  cases regular with
  | null => exact ⟨'n', _, rfl, rfl, by decide⟩
  | bool truth =>
    cases truth
    · exact ⟨'f', _, rfl, rfl, by decide⟩
    · exact ⟨'t', _, rfl, rfl, by decide⟩
  | number value =>
    obtain ⟨c, chars, written, numeric⟩ := exists_repr_eq_cons value
    refine ⟨c, chars, written, visible_of_numeric numeric, ?_⟩
    rintro rfl
    simp at numeric
  | text content => exact ⟨'"', _, rfl, rfl, by decide⟩
  | @list items =>
    cases items
    · exact ⟨'[', _, rfl, rfl, by decide⟩
    · exact ⟨'[', _, rfl, rfl, by decide⟩
  | @record fields =>
    cases fields
    · exact ⟨'\x7b', _, rfl, rfl, by decide⟩
    · exact ⟨'\x7b', _, rfl, rfl, by decide⟩

theorem readsBack_null : ReadsBack .null := by
  intro depth fuel rest _ _
  have opened : skipLayout ("null".toList ++ rest) = 'n' :: 'u' :: 'l' :: 'l' :: rest := rfl
  rw [jsonChars, readValue?, opened]
  rfl

theorem readsBack_bool (truth : Bool) : ReadsBack (.bool truth) := by
  intro depth fuel rest _ _
  cases truth with
  | false =>
    have opened : skipLayout ("false".toList ++ rest) =
        'f' :: 'a' :: 'l' :: 's' :: 'e' :: rest := rfl
    rw [jsonChars, readValue?, opened]
    rfl
  | true =>
    have opened : skipLayout ("true".toList ++ rest) = 't' :: 'r' :: 'u' :: 'e' :: rest := rfl
    rw [jsonChars, readValue?, opened]
    rfl

theorem readsBack_number (number : Int) : ReadsBack (.number number) := by
  intro depth fuel rest delimited _
  obtain ⟨c, chars, written, numeric⟩ := exists_repr_eq_cons number
  have back := readNumber?_repr number delimited
  rw [written] at back
  rw [jsonChars, Int.toString_eq_repr, written, List.cons_append, readValue?_of_numeric numeric]
  exact back

theorem readsBack_text (content : String) : ReadsBack (.text content) := by
  intro depth fuel rest _ enough
  have shorter := length_le_length_escaped content.toList
  simp only [jsonChars, jsonQuoted, List.cons_append, List.length_cons, List.length_append,
    List.append_assoc, List.nil_append] at enough ⊢
  have enoughText : content.toList.length < fuel := by omega
  have quoted := readQuoted?_escaped content.toList [] rest enoughText
  rw [readValue?, skipLayout_cons rfl]
  simp [quoted]

theorem readsBack_list {items : List Value} (regular : ∀ item ∈ items, Regular item)
    (each : ∀ item ∈ items, ReadsBack item) : ReadsBack (.list items) := by
  intro depth fuel rest _ enough
  cases items with
  | nil =>
    have opened : skipLayout (['[', ']'] ++ rest) = '[' :: ']' :: rest := rfl
    have closed : skipLayout (']' :: rest) = ']' :: rest := rfl
    rw [jsonChars, readValue?, opened]
    simp only [closed]
  | cons item items =>
    simp only [jsonChars, List.cons_append, List.length_cons, List.length_append,
      List.append_assoc, List.nil_append] at enough ⊢
    -- The brackets and the line breaks pay for the calls that read no item.
    obtain ⟨fuel, rfl⟩ : ∃ spare, fuel = spare + 2 := ⟨fuel - 2, by omega⟩
    have enoughItems : 2 * ((item.jsonChars (depth + 1)).length +
        (jsonItems (depth + 1) items).length) ≤ fuel := by omega
    have inside := readItems?_written items each (depth + 1) depth [] rest enoughItems
    obtain ⟨c, chars, written, visible, notClosed⟩ :=
      (regular item List.mem_cons_self).jsonChars_eq_cons (depth + 1)
    rw [readValue?, skipLayout_cons rfl]
    simp only [skipLayout_jsonBreak]
    split
    · rename_i more closed
      rw [written, List.cons_append, skipLayout_cons visible] at closed
      exact absurd (List.cons.inj closed).1 notClosed
    · exact inside

theorem readsBack_record {fields : List (String × Value)} (distinct : (fields.map (·.1)).Nodup)
    (each : ∀ field ∈ fields, ReadsBack field.2) : ReadsBack (.record fields) := by
  intro depth fuel rest _ enough
  cases fields with
  | nil =>
    have opened : skipLayout (['\x7b', '\x7d'] ++ rest) = '\x7b' :: '\x7d' :: rest := rfl
    have closed : skipLayout ('\x7d' :: rest) = '\x7d' :: rest := rfl
    rw [jsonChars, readValue?, opened]
    simp only [closed]
  | cons field fields =>
    simp only [jsonChars, List.cons_append, List.length_cons, List.length_append,
      List.append_assoc, List.nil_append] at enough ⊢
    obtain ⟨fuel, rfl⟩ : ∃ spare, fuel = spare + 2 := ⟨fuel - 2, by omega⟩
    have enoughFields : 2 * ((jsonQuoted field.1).length +
        (field.2.jsonChars (depth + 1)).length + (jsonFields (depth + 1) fields).length) ≤
        fuel := by omega
    have inside := readFields?_written fields each (depth + 1) depth [] rest distinct enoughFields
    rw [readValue?, skipLayout_cons rfl]
    simp only [skipLayout_jsonBreak]
    split
    · rename_i more closed
      -- The first field starts with the quote of its name.
      rw [jsonQuoted, List.cons_append, List.cons_append, skipLayout_cons rfl] at closed
      simp at closed
    · exact inside

theorem Regular.readsBack {value : Value} (regular : Regular value) : ReadsBack value := by
  induction regular with
  | null => exact readsBack_null
  | bool truth => exact readsBack_bool truth
  | number number => exact readsBack_number number
  | text content => exact readsBack_text content
  | list regular ih => exact readsBack_list regular ih
  | record distinct _ ih => exact readsBack_record distinct ih

/-- **The text of regular data is read as these data.** -/
theorem Regular.ofJson?_json {value : Value} (regular : Regular value) :
    ofJson? value.json = some value := by
  have enough : 2 * (value.jsonChars 0).length ≤ 2 * (value.jsonChars 0).length + 1 := by omega
  have back := regular.readsBack 0 (.inl rfl) enough
  rw [List.append_nil] at back
  have chars : value.json.toList = value.jsonChars 0 := String.toList_ofList
  have closed : (skipLayout []).isEmpty = true := rfl
  rw [ofJson?, chars, back]
  simp only [Option.bind_eq_bind, Option.bind_some, closed, if_true]
  rfl

end Value

end Enclosure
