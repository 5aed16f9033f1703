import Enclosure.Codec
import Enclosure.Proofs.KindSet.Members
import Enclosure.Proofs.Settings.Acceptance
import Enclosure.Proofs.Value.JsonText
import Enclosure.Proofs.Value.Reordering

/-!
# Reading back what was written

Each type of the library is written in one form and read from several. This file proves
that reading restores what was written, type by type and from the inside out: first places
in a text, then answers, then what to select, then settings. A type with named fields is
restored from its fields under their names in any order, and from the list of its fields
(`RestoresFields`); a set of kinds and a table of overrides are kept in ascending order, so
they are restored from their members in any order (`KindSet.ofList_kinds`,
`OverrideTable.ofList_eq_of_perm`).

What is written is regular, so a JSON text holds it as it is, and reading restores it from
the text as well (`Format.readText_json`).

Reading a form and writing what was read gives the canonical form of the data. It is reached
in one step, and two forms have the same canonical form exactly when they are read as the
same thing (`Format.restored_and_canonical`).
-/

set_option autoImplicit false

namespace Enclosure

/-! ## Places -/

theorem Position.restoresFields : RestoresFields Position.toValue Position.ofValue? := by
  intro position fields written value supplies
  cases written
  -- Every slot holds its field as given, so only the readers of the fields remain.
  obtain ⟨values, slots, each⟩ := supplies.slots ["line", "column"] rfl (by decide) .ignoreUnknown
  obtain _ | ⟨line, _ | ⟨column, _ | _⟩⟩ := each
  simp [ofValue?, slots, restores_word32 _ _ line, restores_word32 _ _ column]

theorem LineSpan.restoresFields : RestoresFields LineSpan.toValue LineSpan.ofValue? := by
  intro span fields written value supplies
  cases written
  obtain ⟨values, slots, each⟩ := supplies.slots ["start", "end"] rfl (by decide) .ignoreUnknown
  obtain _ | ⟨first, _ | ⟨last, _ | _⟩⟩ := each
  simp [ofValue?, slots, restores_word64 _ _ first, restores_word64 _ _ last]

theorem LineMark.restoresFields : RestoresFields LineMark.toValue LineMark.ofValue? := by
  intro mark fields written value supplies
  cases written
  obtain ⟨values, slots, each⟩ := supplies.slots ["line"] rfl (by decide) .ignoreUnknown
  obtain _ | ⟨line, _ | _⟩ := each
  simp [ofValue?, slots, restores_word64 _ _ line]

theorem LineMark.restores : Restores LineMark.toValue LineMark.ofValue? :=
  LineMark.restoresFields.restores fun _ => ⟨_, rfl⟩

theorem Extent.restoresFields : RestoresFields Extent.toValue Extent.ofValue? := by
  intro extent fields written value supplies
  cases written
  obtain ⟨values, slots, each⟩ := supplies.slots ["start", "end"] rfl (by decide) .ignoreUnknown
  obtain _ | ⟨first, _ | ⟨last, _ | _⟩⟩ := each
  simp [ofValue?, slots, LineMark.restores _ _ first, LineMark.restores _ _ last]

theorem Extent.restores : Restores Extent.toValue Extent.ofValue? :=
  Extent.restoresFields.restores fun _ => ⟨_, rfl⟩

theorem StructuralUnit.restoresFields :
    RestoresFields StructuralUnit.toValue StructuralUnit.ofValue? := by
  intro unit fields written value supplies
  cases written
  obtain ⟨values, slots, each⟩ := supplies.slots ["kind", "loc"] rfl (by decide) .ignoreUnknown
  obtain _ | ⟨kind, _ | ⟨extent, _ | _⟩⟩ := each
  simp [ofValue?, slots, restores_text _ _ kind, Extent.restores _ _ extent]

theorem StructuralUnit.restores : Restores StructuralUnit.toValue StructuralUnit.ofValue? :=
  StructuralUnit.restoresFields.restores fun _ => ⟨_, rfl⟩

/-! ## Answers -/

theorem Finding.restoresFields : RestoresFields Finding.toValue Finding.ofValue? := by
  intro finding fields written value supplies
  cases written
  obtain ⟨values, slots, each⟩ :=
    supplies.slots ["enclosingContext"] rfl (by decide) .ignoreUnknown
  obtain _ | ⟨unit, _ | _⟩ := each
  simp [ofValue?, slots, StructuralUnit.restores.option (by simp [StructuralUnit.toValue]) _ _ unit]

theorem Verdict.restoresFields : RestoresFields Verdict.toValue Verdict.ofValue? := by
  intro verdict fields written value supplies
  cases written
  obtain ⟨values, slots, each⟩ := supplies.slots ["valid", "error"] rfl (by decide) .ignoreUnknown
  obtain _ | ⟨valid, _ | ⟨error, _ | _⟩⟩ := each
  simp [ofValue?, slots, restores_bool _ _ valid, restores_text _ _ error]

theorem ErrorSite.restoresFields : RestoresFields ErrorSite.toValue ErrorSite.ofValue? := by
  intro site fields written value supplies
  cases written
  obtain ⟨values, slots, each⟩ :=
    supplies.slots ["startLine", "startColumn", "endLine"] rfl (by decide) .ignoreUnknown
  obtain _ | ⟨startLine, _ | ⟨startColumn, _ | ⟨endLine, _ | _⟩⟩⟩ := each
  simp [ofValue?, slots, restores_word64 _ _ startLine, restores_word32 _ _ startColumn,
    restores_word64 _ _ endLine]

theorem ErrorSite.restores : Restores ErrorSite.toValue ErrorSite.ofValue? :=
  ErrorSite.restoresFields.restores fun _ => ⟨_, rfl⟩

/-! ## What to select -/

theorem Policy.ofName?_name (policy : Policy) : ofName? policy.name = some policy :=
  ofName?_eq_some_iff.mpr rfl

theorem Policy.restores : Restores Policy.toValue Policy.ofValue? := by
  intro policy value reordered
  cases reordered
  exact ofName?_name policy

theorem KindSet.restores : Restores KindSet.toValue KindSet.ofValue? := by
  intro set value reordered
  have listed : value.toListOf? Value.toText? = some set.kinds :=
    restores_text.list set.kinds value reordered
  rw [ofValue?, listed, Option.map_some, ofList_kinds]

theorem Selection.restoresFields : RestoresFields Selection.toValue Selection.ofValue? := by
  intro selection fields written value supplies
  cases written
  obtain ⟨values, slots, each⟩ :=
    supplies.slots ["structuralKinds", "policy"] rfl (by decide) .ignoreUnknown
  obtain _ | ⟨kinds, _ | ⟨policy, _ | _⟩⟩ := each
  simp [ofValue?, slots, KindSet.restores _ _ kinds, Policy.restores _ _ policy]

/-! ## Settings -/

theorem Override.restoresFields : RestoresFields Override.toValue Override.ofValue? := by
  intro entry fields written value supplies
  cases written
  obtain ⟨values, slots, each⟩ :=
    supplies.slots ["structural_kinds", "extra_kinds"] rfl (by decide) .refuseUnknown
  obtain _ | ⟨structural, _ | ⟨extra, _ | _⟩⟩ := each
  simp [ofValue?, slots, restores_text.list.option (by simp) _ _ structural,
    restores_text.list _ _ extra]

theorem Override.restores : Restores Override.toValue Override.ofValue? :=
  Override.restoresFields.restores fun _ => ⟨_, rfl⟩

namespace OverrideTable

/-- A table is the table of its entries, in whatever order they are put in. -/
theorem ofList_eq_of_perm {table : OverrideTable} {entries : List (String × Override)}
    (shuffled : entries.Perm table.entries) : ofList entries = table := by
  have distinct : (entries.reverse.map (·.1)).Nodup := by
    rw [List.map_reverse, List.nodup_reverse]
    exact (shuffled.map _).nodup_iff.mpr table.nodup_names
  refine eq_of_mem_entries_iff fun name entry => ?_
  rw [mem_entries_iff_lookup, lookup_ofList, lookup_eq_some_iff_mem distinct, List.mem_reverse,
    shuffled.mem_iff]

theorem restores : Restores OverrideTable.toValue OverrideTable.ofValue? := by
  intro table value reordered
  obtain ⟨renewed, others, rfl, named, each, shuffled⟩ := reordered.exists_of_record
  have matched := Value.Reordered.forall₂_fields named each
  rw [List.forall₂_map_left_iff] at matched
  -- Before the fields change places, each is read as the entry that it was written from.
  have read : List.Forall₂ (fun field entry => entryOfValue? field = some entry)
      renewed table.entries := by
    refine matched.flip.imp ?_
    rintro ⟨name, content⟩ ⟨_, entry⟩ ⟨rfl, restated⟩
    rw [entryOfValue?, Override.restores entry content restated, Option.map_some]
  obtain ⟨entries, readOthers, reshuffled⟩ := List.perm_comp_forall₂ shuffled.symm read
  rw [ofValue?, mapM_eq_some_iff_forall₂.mpr readOthers, Option.map_some,
    ofList_eq_of_perm reshuffled]

end OverrideTable

theorem Settings.restoresFields : RestoresFields Settings.toValue Settings.ofValue? := by
  intro settings fields written value supplies
  cases written
  obtain ⟨values, slots, each⟩ :=
    supplies.slots ["policy", "languages"] rfl (by decide) .refuseUnknown
  obtain _ | ⟨policy, _ | ⟨languages, _ | _⟩⟩ := each
  simp [ofValue?, slots, Policy.restores _ _ policy, OverrideTable.restores _ _ languages]

/-! ## Written data are regular -/

namespace Value

/-- Regular data stay regular when fields change places. -/
theorem Regular.reordered {value other : Value} (regular : value.Regular)
    (reordered : value.Reordered other) : other.Regular := by
  induction regular generalizing other with
  | null | bool | number | text =>
    cases reordered
    simp
  | list _ ih =>
    obtain ⟨others, rfl, each⟩ := reordered.exists_of_list
    refine .list fun item member => ?_
    obtain ⟨original, listed, same⟩ := exists_of_mem_of_forall₂ each member
    exact ih original listed same
  | @record fields distinct _ ih =>
    obtain ⟨renewed, others, rfl, named, each, shuffled⟩ := reordered.exists_of_record
    refine .record ?_ fun field member => ?_
    · exact (shuffled.map _).nodup_iff.mp (named ▸ distinct)
    · obtain ⟨original, listed, -, same⟩ :=
        exists_of_mem_of_forall₂ (Reordered.forall₂_fields named each) (shuffled.mem_iff.mpr member)
      exact ih original listed same

end Value

@[simp]
theorem Value.regular_ofWord32 (word : UInt32) : (Value.ofWord32 word).Regular := .number _

@[simp]
theorem Value.regular_ofWord64 (word : UInt64) : (Value.ofWord64 word).Regular := .number _

/-- A thing that may be missing. -/
theorem Value.regular_option {α : Type} {write : α → Value}
    (regular : ∀ thing, (write thing).Regular) (possible : Option α) :
    ((possible.map write).getD .null).Regular := by
  cases possible with
  | none => exact .null
  | some thing => exact regular thing

@[simp]
theorem Position.regular_toValue (position : Position) : position.toValue.Regular := by
  simp [toValue]

@[simp]
theorem LineSpan.regular_toValue (span : LineSpan) : span.toValue.Regular := by
  simp [toValue]

@[simp]
theorem LineMark.regular_toValue (mark : LineMark) : mark.toValue.Regular := by
  simp [toValue]

@[simp]
theorem Extent.regular_toValue (extent : Extent) : extent.toValue.Regular := by
  simp [toValue]

@[simp]
theorem StructuralUnit.regular_toValue (unit : StructuralUnit) : unit.toValue.Regular := by
  simp [toValue]

@[simp]
theorem Finding.regular_toValue (finding : Finding) : finding.toValue.Regular := by
  simp [toValue, Value.regular_option StructuralUnit.regular_toValue]

@[simp]
theorem Verdict.regular_toValue (verdict : Verdict) : verdict.toValue.Regular := by
  simp [toValue]

@[simp]
theorem ErrorSite.regular_toValue (site : ErrorSite) : site.toValue.Regular := by
  simp [toValue]

@[simp]
theorem Policy.regular_toValue (policy : Policy) : policy.toValue.Regular := by
  simp [toValue]

@[simp]
theorem KindSet.regular_toValue (set : KindSet) : set.toValue.Regular := by
  simp [toValue]

@[simp]
theorem Selection.regular_toValue (selection : Selection) : selection.toValue.Regular := by
  simp [toValue]

@[simp]
theorem Override.regular_toValue (entry : Override) : entry.toValue.Regular := by
  simp [toValue, Value.regular_option]

@[simp]
theorem OverrideTable.regular_toValue (table : OverrideTable) : table.toValue.Regular := by
  refine .record ?_ ?_
  · rw [List.map_map]
    exact table.nodup_names
  · intro field member
    obtain ⟨⟨name, entry⟩, -, rfl⟩ := List.mem_map.mp member
    exact entry.regular_toValue

@[simp]
theorem Settings.regular_toValue (settings : Settings) : settings.toValue.Regular := by
  simp [toValue]

/-! ## Formats -/

/-- The types that are exchanged as data. -/
inductive Format where
  | position
  | lineSpan
  | lineMark
  | extent
  | unit
  | finding
  | verdict
  | errorSite
  | errorSites
  | policy
  | kinds
  | selection
  | override
  | settings

namespace Format

/-- What is exchanged in a format. -/
abbrev Carrier : Format → Type
  | position => Position
  | lineSpan => LineSpan
  | lineMark => LineMark
  | extent => Extent
  | unit => StructuralUnit
  | finding => Finding
  | verdict => Verdict
  | errorSite => ErrorSite
  | errorSites => List ErrorSite
  | policy => Policy
  | kinds => KindSet
  | selection => Selection
  | override => Override
  | settings => Settings

/-- The canonical form of a thing. -/
def write : (format : Format) → format.Carrier → Value
  | position => Position.toValue
  | lineSpan => LineSpan.toValue
  | lineMark => LineMark.toValue
  | extent => Extent.toValue
  | unit => StructuralUnit.toValue
  | finding => Finding.toValue
  | verdict => Verdict.toValue
  | errorSite => ErrorSite.toValue
  | errorSites => ErrorSite.listToValue
  | policy => Policy.toValue
  | kinds => KindSet.toValue
  | selection => Selection.toValue
  | override => Override.toValue
  | settings => Settings.toValue

/-- What data are read as. -/
def read : (format : Format) → Value → Option format.Carrier
  | position => Position.ofValue?
  | lineSpan => LineSpan.ofValue?
  | lineMark => LineMark.ofValue?
  | extent => Extent.ofValue?
  | unit => StructuralUnit.ofValue?
  | finding => Finding.ofValue?
  | verdict => Verdict.ofValue?
  | errorSite => ErrorSite.ofValue?
  | errorSites => ErrorSite.listOfValue?
  | policy => Policy.ofValue?
  | kinds => KindSet.ofValue?
  | selection => Selection.ofValue?
  | override => Override.ofValue?
  | settings => Settings.ofValue?

/-- What a JSON text is read as. -/
def readText (format : Format) (text : String) : Option format.Carrier :=
  (Value.ofJson? text).bind format.read

/-- The canonical form of data: what they are read as, written. -/
def canonical? (format : Format) (value : Value) : Option Value :=
  (format.read value).map format.write

theorem restoresFields (format : Format) : RestoresFields format.write format.read := by
  cases format with
  | position => exact Position.restoresFields
  | lineSpan => exact LineSpan.restoresFields
  | lineMark => exact LineMark.restoresFields
  | extent => exact Extent.restoresFields
  | unit => exact StructuralUnit.restoresFields
  | finding => exact Finding.restoresFields
  | verdict => exact Verdict.restoresFields
  | errorSite => exact ErrorSite.restoresFields
  | selection => exact Selection.restoresFields
  | override => exact Override.restoresFields
  | settings => exact Settings.restoresFields
  | errorSites | policy | kinds => exact fun _ _ written => nomatch written

theorem restores (format : Format) : Restores format.write format.read := by
  cases format with
  | errorSites => exact ErrorSite.restores.list
  | policy => exact Policy.restores
  | kinds => exact KindSet.restores
  | _ => exact (restoresFields _).restores fun _ => ⟨_, rfl⟩

theorem regular_write (format : Format) (thing : format.Carrier) :
    (format.write thing).Regular := by
  cases format with
  | errorSites => simp [write, ErrorSite.listToValue]
  | _ => simp [write]

theorem read_write (format : Format) (thing : format.Carrier) :
    format.read (format.write thing) = some thing :=
  format.restores thing (format.write thing) (.same _)

/-- Different things have different canonical forms. -/
theorem write_inj {format : Format} {thing other : format.Carrier}
    (same : format.write thing = format.write other) : thing = other := by
  have read := format.read_write thing
  rw [same, format.read_write other] at read
  exact (Option.some.inj read).symm

/-- A text in which fields have changed places is read as what was written. -/
theorem readText_json {format : Format} {thing : format.Carrier} {value : Value}
    (reordered : (format.write thing).Reordered value) :
    format.readText value.json = some thing := by
  rw [readText, ((format.regular_write thing).reordered reordered).ofJson?_json, Option.bind_some]
  exact format.restores thing value reordered

/-- **Reading restores what was written, and writing what was read is canonical.** What was
written is restored from every reordering of its fields, as data and as text, and from the
list of its fields. Whatever data are read as a thing, the thing as written is read as the
thing again, and it is the canonical form of exactly the data that are read as the thing. -/
theorem restored_and_canonical (format : Format) :
    (∀ thing value, (format.write thing).Reordered value →
      format.read value = some thing ∧ format.readText value.json = some thing) ∧
    (∀ thing fields values, format.write thing = .record fields →
      List.Forall₂ Value.Reordered (fields.map (·.2)) values →
      format.read (.list values) = some thing) ∧
    ∀ value thing, format.read value = some thing →
      format.read (format.write thing) = some thing ∧
      format.canonical? value = some (format.write thing) ∧
      format.canonical? (format.write thing) = some (format.write thing) ∧
      ∀ other, format.canonical? other = format.canonical? value ↔
        format.read other = some thing := by
  refine ⟨?_, ?_, ?_⟩
  · intro thing value reordered
    exact ⟨format.restores thing value reordered, readText_json reordered⟩
  · intro thing fields values written each
    exact format.restoresFields thing fields written (.list values) (.positional each)
  · intro value thing readAs
    have canonical : format.canonical? value = some (format.write thing) := by
      rw [canonical?, readAs, Option.map_some]
    refine ⟨format.read_write thing, canonical, ?_, ?_⟩
    · rw [canonical?, format.read_write, Option.map_some]
    · intro other
      rw [canonical, canonical?, Option.map_eq_some_iff]
      constructor
      · rintro ⟨found, readOther, same⟩
        rw [readOther, write_inj same]
      · exact fun readOther => ⟨thing, readOther, rfl⟩

/-- An extent whose fields have changed places. -/
def shuffledExtent : Value :=
  .record [("end", .record [("line", .number 7)]), ("start", .record [("line", .number 3)])]

/-- The shuffled extent; an extent as a list; a selection with its policy in the form of a
record, before unsorted and repeated kinds; an override cut off behind its first field; and
settings that leave everything out. -/
theorem restored_and_canonical_of_loose_forms :
    (extent.read shuffledExtent = some ⟨⟨3⟩, ⟨7⟩⟩ ∧
      extent.readText shuffledExtent.json = some ⟨⟨3⟩, ⟨7⟩⟩) ∧
    extent.read (.list [.record [("line", .number 3)], .record [("line", .number 7)]]) =
      some ⟨⟨3⟩, ⟨7⟩⟩ ∧
    selection.canonical? (.record [("policy", .record [("innermost", .null)]),
        ("structuralKinds", .list [.text "b", .text "a", .text "b"])]) =
      some (.record [("structuralKinds", .list [.text "a", .text "b"]),
        ("policy", .text "innermost")]) ∧
    override.canonical? (.list [.list [.text "b", .text "a"]]) =
      some (.record [("structural_kinds", .list [.text "b", .text "a"]),
        ("extra_kinds", .list [])]) ∧
    settings.canonical? (.record []) =
      some (.record [("policy", .text "outermost"), ("languages", .record [])]) := by
  refine ⟨?_, ?_, ?_, ?_, ?_⟩
  · refine (restored_and_canonical extent).1 ⟨⟨3⟩, ⟨7⟩⟩ shuffledExtent ?_
    exact .record rfl (Value.forall₂_reordered_same _) (.swap _ _ [])
  · exact (restored_and_canonical extent).2.1 ⟨⟨3⟩, ⟨7⟩⟩ _ _ rfl (Value.forall₂_reordered_same _)
  · have readAs := (restored_and_canonical selection).2.2 (.record
      [("policy", .record [("innermost", .null)]),
        ("structuralKinds", .list [.text "b", .text "a", .text "b"])])
      ⟨.ofList ["a", "b"], .innermost⟩ (by decide)
    exact readAs.2.1
  · have readAs := (restored_and_canonical override).2.2 (.list [.list [.text "b", .text "a"]])
      ⟨some ["b", "a"], []⟩ (by decide)
    exact readAs.2.1
  · have readAs := (restored_and_canonical settings).2.2 (.record []) ⟨.outermost, .empty⟩
      (by decide)
    exact readAs.2.1

end Format

end Enclosure
