import Enclosure.Proofs.Value.Reordering

/-!
# What a strict reader takes from a record

A reader that is strict about the names of fields takes a record when no field is written
twice and every field is declared (`Value.slots_record`). A field that has a default is
then read from the only value under its name, or has the default when there is none
(`Slot.defaulted_under_eq_some_iff`). So every field of the record takes part in the result,
and this is what `Value.FieldGives` says without reading.
-/

set_option autoImplicit false

namespace Enclosure

/-- What the fields of a record give for a name: every value under the name writes the
thing, and the thing is the default when the record does not have the field. -/
structure Value.FieldGives {α : Type} (fields : List (String × Value)) (name : String)
    (writes : α → Value → Prop) (default thing : α) : Prop where
  given : ∀ value, (name, value) ∈ fields → writes thing value
  absent : name ∉ fields.map (·.1) → thing = default

/-- What a record holds under a name. -/
def Slot.under (fields : List (String × Value)) (name : String) : Slot :=
  match fields.lookup name with
  | some value => .given value
  | none => .absent

/-- A field with a default is read from the value under its name. -/
theorem Slot.defaulted_under_eq_some_iff {α : Type} {read : Value → Option α}
    {writes : α → Value → Prop}
    (reads : ∀ value thing, read value = some thing ↔ writes thing value)
    {fields : List (String × Value)} (distinct : (fields.map (·.1)).Nodup) (name : String)
    (default thing : α) :
    (under fields name).defaulted default read = some thing ↔
      Value.FieldGives fields name writes default thing := by
  unfold under
  cases found : fields.lookup name with
  | some value =>
    have only (other : Value) : (name, other) ∈ fields ↔ other = value := by
      rw [← lookup_eq_some_iff_mem distinct, found, Option.some.injEq, eq_comm]
    have present : name ∈ fields.map (·.1) :=
      List.mem_map_of_mem ((only value).mpr rfl)
    rw [defaulted, reads]
    constructor
    · intro written
      exact ⟨fun other listed => (only other).mp listed ▸ written, fun missing =>
        absurd present missing⟩
    · intro gives
      exact gives.given value ((only value).mpr rfl)
  | none =>
    have missing : name ∉ fields.map (·.1) := by
      intro present
      obtain ⟨⟨_, value⟩, listed, rfl⟩ := List.mem_map.mp present
      rw [(lookup_eq_some_iff_mem distinct).mpr listed] at found
      cases found
    rw [defaulted, Option.some.injEq]
    constructor
    · rintro rfl
      exact ⟨fun value listed => absurd (List.mem_map_of_mem listed) missing, fun _ => rfl⟩
    · intro gives
      exact (gives.absent missing).symm

namespace Value

/-- No declared name stands twice among names that are all declared exactly when no name
does. -/
theorem forall_count_le_one_iff_nodup {names keys : List String} (declared : keys ⊆ names) :
    (∀ name ∈ names, keys.count name ≤ 1) ↔ keys.Nodup := by
  rw [List.nodup_iff_count_le_one]
  constructor
  · intro once name
    by_cases listed : name ∈ names
    · exact once name listed
    · rw [List.count_eq_zero_of_not_mem fun key => listed (declared key)]
      exact Nat.zero_le 1
  · exact fun once name _ => once name

/-- **A strict reader takes a record when its fields are distinct and declared.** -/
theorem slots_record (names : List String) (fields : List (String × Value)) :
    (record fields).slots .refuseUnknown names =
      if (fields.map (·.1)).Nodup ∧ fields.map (·.1) ⊆ names then
        some (names.map (Slot.under fields))
      else none := by
  have unknown : ((fields.map (·.1)).any fun key => !names.contains key) = true ↔
      ¬ fields.map (·.1) ⊆ names := by
    simp [List.subset_def]
  have twice : (names.any fun name => 1 < (fields.map (·.1)).count name) = true ↔
      ¬ ∀ name ∈ names, (fields.map (·.1)).count name ≤ 1 := by
    simp
  rw [slots]
  simp only [twice, unknown, true_and]
  -- Only declared names are counted, so the count says that all names are distinct when
  -- all are declared; and when they are not, it does not matter.
  by_cases declared : fields.map (·.1) ⊆ names
  · simp only [forall_count_le_one_iff_nodup declared, declared, not_true_eq_false, and_true,
      if_false, ite_not]
    rfl
  · simp only [declared, not_false_eq_true, and_false, if_true, if_false, ite_self]

/-- **What a strict reader of two fields with defaults takes from a record.** -/
theorem strict_pair_eq_some_iff {α β γ : Type} {readFirst : Value → Option α}
    {readSecond : Value → Option β} {writesFirst : α → Value → Prop}
    {writesSecond : β → Value → Prop}
    (readsFirst : ∀ value thing, readFirst value = some thing ↔ writesFirst thing value)
    (readsSecond : ∀ value thing, readSecond value = some thing ↔ writesSecond thing value)
    (build : α → β → γ) {fields : List (String × Value)} {first second : String}
    {defaultFirst : α} {defaultSecond : β} {whole : γ} :
    (do
      let [slot, other] ← (record fields).slots .refuseUnknown [first, second] | none
      return build (← slot.defaulted defaultFirst readFirst)
        (← other.defaulted defaultSecond readSecond)) = some whole ↔
      (fields.map (·.1)).Nodup ∧ fields.map (·.1) ⊆ [first, second] ∧
        ∃ thing, FieldGives fields first writesFirst defaultFirst thing ∧
        ∃ another, FieldGives fields second writesSecond defaultSecond another ∧
          build thing another = whole := by
  rw [slots_record]
  by_cases accepted : (fields.map (·.1)).Nodup ∧ fields.map (·.1) ⊆ [first, second]
  · obtain ⟨distinct, declared⟩ := accepted
    simp only [distinct, declared, and_self, true_and, if_true, List.map_cons, List.map_nil,
      Option.bind_eq_bind, Option.bind_some, Option.bind_eq_some_iff, Option.pure_def,
      Option.some.injEq, Slot.defaulted_under_eq_some_iff readsFirst distinct,
      Slot.defaulted_under_eq_some_iff readsSecond distinct]
  · rw [if_neg accepted]
    constructor
    · intro read
      cases read
    · rintro ⟨distinct, declared, -⟩
      exact absurd ⟨distinct, declared⟩ accepted

/-! ## Lists of texts -/

/-- A list of texts as data. -/
def ofTexts (texts : List String) : Value := .list (texts.map .text)

/-- A list of texts that may be missing as data. -/
def ofPossibleTexts (possible : Option (List String)) : Value := (possible.map ofTexts).getD .null

theorem toText?_eq_some_iff {value : Value} {content : String} :
    value.toText? = some content ↔ value = .text content := by
  cases value <;> simp [toText?]

/-- A list of texts is read from exactly this list. -/
theorem toListOf?_toText?_eq_some_iff (value : Value) (texts : List String) :
    value.toListOf? toText? = some texts ↔ value = ofTexts texts := by
  cases value with
  | list items =>
    simp only [toListOf?, mapM_eq_some_iff_forall₂, toText?_eq_some_iff, ofTexts, list.injEq]
    rw [← List.forall₂_map_right_iff, List.forall₂_eq_eq_eq]
  | null | bool truth | number integer | decimal digits | text content | record fields =>
    simp [toListOf?, ofTexts]

/-- A list of texts that may be missing is read from exactly this list, or from nothing. -/
theorem toOptionOf?_toListOf?_toText?_eq_some_iff (value : Value)
    (possible : Option (List String)) :
    value.toOptionOf? (toListOf? toText?) = some possible ↔ value = ofPossibleTexts possible := by
  unfold ofPossibleTexts
  cases value with
  | null => cases possible <;> simp [toOptionOf?, ofTexts]
  | list items | bool truth | number integer | decimal digits | text content | record fields =>
    cases possible <;> simp [toOptionOf?, toListOf?_toText?_eq_some_iff]

end Value

end Enclosure
