import Enclosure.Codec
import Enclosure.Proofs.Settings.Names
import Enclosure.Proofs.Value.Strictness

/-!
# Which data are settings

Settings may leave fields out, and what is left out has a default. This must not hide
mistakes: a misspelt field, an unknown policy or a kind that is not a text must not be
taken for something left out. So this module says, without reading, which records write
given settings (`Settings.WrittenByName`), and shows that reading follows it in both
directions (`Settings.ofValue?_record_eq_some_iff`): a record is read exactly when it
writes settings, and then these are the settings read.

The description goes from the inside to the outside: policies, the adjustments for one
language, overrides by name, settings. Every reader is described by one equivalence, in
which the readers of the parts no longer occur. Only overrides can be written twice under
one name, and then the last one counts.
-/

set_option autoImplicit false

namespace Enclosure

/-! ## Policies -/

/-- The data write the policy: as its name, or as a record whose only field has that name
and holds nothing. -/
def Policy.WrittenAs (policy : Policy) (value : Value) : Prop :=
  value = .text policy.name ∨ value = .record [(policy.name, .null)]

theorem Policy.ofName?_eq_some_iff {name : String} {policy : Policy} :
    ofName? name = some policy ↔ name = policy.name := by
  unfold ofName?
  split <;> cases policy <;> simp_all [Policy.name]

theorem Policy.ofValue?_eq_some_iff (value : Value) (policy : Policy) :
    ofValue? value = some policy ↔ policy.WrittenAs value := by
  unfold ofValue? WrittenAs
  split <;> simp_all [ofName?_eq_some_iff]

/-! ## The adjustments for one language -/

namespace Override

variable {entry : Override} {fields : List (String × Value)} {items : List Value}

/-- The fields of a record write the adjustments: they are distinct and declared, every
list that is written is the list of the adjustments, and what is not written is missing
there. Only the structural kinds can be written as nothing. -/
structure WrittenByName (entry : Override) (fields : List (String × Value)) : Prop where
  distinct : (fields.map (·.1)).Nodup
  declared : fields.map (·.1) ⊆ ["structural_kinds", "extra_kinds"]
  structural : Value.FieldGives fields "structural_kinds"
    (fun kinds value => value = .ofPossibleTexts kinds) none entry.structuralKinds
  extra : Value.FieldGives fields "extra_kinds" (fun kinds value => value = .ofTexts kinds)
    [] entry.extraKinds

/-- The items of a list write the adjustments: they are the two lists in order of
declaration, and what is cut off at the end is missing there. -/
@[mk_iff]
structure WrittenInOrder (entry : Override) (items : List Value) : Prop where
  initial : items <+: [.ofPossibleTexts entry.structuralKinds, .ofTexts entry.extraKinds]
  structural : items.length < 1 → entry.structuralKinds = none
  extra : items.length < 2 → entry.extraKinds = []

/-- The data write the adjustments for one language. -/
inductive WrittenAs (entry : Override) : Value → Prop where
  | byName (fields : List (String × Value)) (written : entry.WrittenByName fields) :
      WrittenAs entry (.record fields)
  | inOrder (items : List Value) (written : entry.WrittenInOrder items) :
      WrittenAs entry (.list items)

theorem ofValue?_record_eq_some_iff :
    ofValue? (.record fields) = some entry ↔ entry.WrittenByName fields := by
  refine (Value.strict_pair_eq_some_iff Value.toOptionOf?_toListOf?_toText?_eq_some_iff
    Value.toListOf?_toText?_eq_some_iff Override.mk).trans ⟨?_, ?_⟩
  · rintro ⟨distinct, declared, _, structural, _, extra, rfl⟩
    exact ⟨distinct, declared, structural, extra⟩
  · intro written
    exact ⟨written.distinct, written.declared, _, written.structural, _, written.extra, rfl⟩

theorem ofValue?_list_eq_some_iff :
    ofValue? (.list items) = some entry ↔ entry.WrittenInOrder items := by
  obtain ⟨structuralKinds, extraKinds⟩ := entry
  rw [ofValue?, writtenInOrder_iff]
  -- Both fields are cut off, or the second one, or none, or the list is too long.
  match items with
  | [] => simp [Value.slots, Slot.defaulted, eq_comm]
  | [structural] =>
    simp [Value.slots, Slot.defaulted, Option.bind_eq_some_iff,
      Value.toOptionOf?_toListOf?_toText?_eq_some_iff]
  | [structural, extra] =>
    simp [Value.slots, Slot.defaulted, Option.bind_eq_some_iff,
      Value.toOptionOf?_toListOf?_toText?_eq_some_iff, Value.toListOf?_toText?_eq_some_iff]
  | structural :: extra :: third :: rest => simp [Value.slots]

/-- **Adjustments are read from the data that write them.** -/
theorem ofValue?_eq_some_iff (value : Value) (entry : Override) :
    ofValue? value = some entry ↔ entry.WrittenAs value := by
  cases value with
  | record fields =>
    rw [ofValue?_record_eq_some_iff]
    constructor
    · exact .byName fields
    · rintro ⟨⟩
      assumption
  | list items =>
    rw [ofValue?_list_eq_some_iff]
    constructor
    · exact .inOrder items
    · rintro ⟨⟩
      assumption
  | null | bool truth | number integer | decimal digits | text content =>
    constructor
    · intro read
      cases read
    · intro written
      cases written

/-- The data of an override hold a list: under some name, or at some place. -/
inductive HoldsList (items : List Value) : Value → Prop where
  | byName (fields : List (String × Value)) (name : String)
      (written : (name, .list items) ∈ fields) : HoldsList items (.record fields)
  | inOrder (places : List Value) (written : .list items ∈ places) : HoldsList items (.list places)

/-- Every list in the data of adjustments is a list of texts. -/
theorem WrittenAs.exists_of_holdsList {value : Value} (written : entry.WrittenAs value)
    (holds : HoldsList items value) : ∃ kinds : List String, items = kinds.map .text := by
  have ofTexts {kinds : List String} (same : .list items = Value.ofTexts kinds) :
      ∃ kinds : List String, items = kinds.map .text := ⟨kinds, Value.list.inj same⟩
  have ofPossibleTexts {kinds : Option (List String)}
      (same : .list items = Value.ofPossibleTexts kinds) :
      ∃ kinds : List String, items = kinds.map .text := by
    cases kinds with
    | none => cases same
    | some kinds => exact ofTexts same
  cases holds with
  | byName fields name listed =>
    obtain ⟨_, written⟩ | _ := written
    have declared := written.declared (List.mem_map_of_mem listed)
    simp only [List.mem_cons, List.not_mem_nil, or_false] at declared
    rcases declared with rfl | rfl
    · exact ofPossibleTexts (written.structural.given _ listed)
    · exact ofTexts (written.extra.given _ listed)
  | inOrder places listed =>
    obtain _ | ⟨_, written⟩ := written
    have declared := written.initial.subset listed
    simp only [List.mem_cons, List.not_mem_nil, or_false] at declared
    rcases declared with same | same
    · exact ofPossibleTexts same
    · exact ofTexts same

end Override

/-! ## Overrides by name -/

namespace OverrideTable

variable {table : OverrideTable} {written : List (String × Value)}

/-- The fields of a record write the table: all of them write adjustments, their names are
the names of the table, and the table has the adjustments that are written last under a
name. -/
structure WrittenByName (table : OverrideTable) (written : List (String × Value)) : Prop where
  readable : ∀ field ∈ written, ∃ entry : Override, entry.WrittenAs field.2
  names : ∀ name, name ∈ table.names ↔ name ∈ written.map (·.1)
  kept : ∀ name entry, (name, entry) ∈ table.entries ↔
    ∃ value, written.reverse.lookup name = some value ∧ entry.WrittenAs value

/-- The data write the table. -/
def WrittenAs (table : OverrideTable) (value : Value) : Prop :=
  ∃ written, value = .record written ∧ table.WrittenByName written

/-- The fields of a record are read as named adjustments, one by one. -/
abbrev ReadOneByOne (written : List (String × Value)) (entries : List (String × Override)) :
    Prop :=
  List.Forall₂ (fun field entry => entryOfValue? field = some entry) written entries

theorem entryOfValue?_eq_some_iff {field : String × Value} {entry : String × Override} :
    entryOfValue? field = some entry ↔ entry.1 = field.1 ∧ entry.2.WrittenAs field.2 := by
  obtain ⟨name, adjustments⟩ := entry
  simp only [entryOfValue?, Option.map_eq_some_iff, Override.ofValue?_eq_some_iff, Prod.mk.injEq]
  constructor
  · rintro ⟨_, writes, rfl, rfl⟩
    exact ⟨rfl, writes⟩
  · rintro ⟨rfl, writes⟩
    exact ⟨adjustments, writes, rfl, rfl⟩

/-- Fields that all write adjustments are read. -/
theorem exists_readOneByOne
    (readable : ∀ field ∈ written, ∃ entry : Override, entry.WrittenAs field.2) :
    ∃ entries, ReadOneByOne written entries := by
  induction written with
  | nil => exact ⟨[], .nil⟩
  | cons field written ih =>
    obtain ⟨entry, writes⟩ := readable field List.mem_cons_self
    obtain ⟨entries, read⟩ := ih fun other listed => readable other (.tail field listed)
    exact ⟨(field.1, entry) :: entries, .cons (entryOfValue?_eq_some_iff.mpr ⟨rfl, writes⟩) read⟩

/-- Adjustments are found under a name when they are read from what is found there. -/
theorem lookup_eq_some_iff_of_readOneByOne {entries : List (String × Override)}
    (read : ReadOneByOne written entries) (name : String) (entry : Override) :
    entries.lookup name = some entry ↔
      ∃ value, written.lookup name = some value ∧ entry.WrittenAs value := by
  induction read with
  | nil => simp
  | @cons field other written entries readFirst _ ih =>
    obtain ⟨sameName, writes⟩ := entryOfValue?_eq_some_iff.mp readFirst
    rw [lookup_cons_eq_ite, lookup_cons_eq_ite, sameName]
    split
    · -- What a value is read as is unique.
      have read := (Override.ofValue?_eq_some_iff _ _).mpr writes
      simp [← Override.ofValue?_eq_some_iff, read]
    · exact ih

theorem writtenByName_ofList {entries : List (String × Override)}
    (read : ReadOneByOne written entries) : (ofList entries).WrittenByName written where
  readable := by
    intro field listed
    obtain ⟨entry, -, readEntry⟩ := exists_of_mem_of_forall₂ read.flip listed
    exact ⟨entry.2, (entryOfValue?_eq_some_iff.mp readEntry).2⟩
  names := by
    intro name
    have sameNames : entries.map (·.1) = written.map (·.1) := by
      rw [← List.forall₂_eq_eq_eq, List.forall₂_map_left_iff, List.forall₂_map_right_iff]
      exact read.flip.imp fun _ _ readEntry => (entryOfValue?_eq_some_iff.mp readEntry).1
    rw [mem_names_ofList, sameNames]
  kept := by
    intro name entry
    rw [mem_entries_iff_lookup, lookup_ofList]
    exact lookup_eq_some_iff_of_readOneByOne (List.forall₂_reverse_iff.mpr read) name entry

/-- **Overrides are read from the data that write them.** -/
theorem ofValue?_eq_some_iff (value : Value) (table : OverrideTable) :
    ofValue? value = some table ↔ table.WrittenAs value := by
  cases value with
  | record written =>
    simp only [ofValue?, Option.map_eq_some_iff, mapM_eq_some_iff_forall₂]
    constructor
    · rintro ⟨entries, read, rfl⟩
      exact ⟨written, rfl, writtenByName_ofList read⟩
    · rintro ⟨_, same, writes⟩
      cases same
      obtain ⟨entries, read⟩ := exists_readOneByOne writes.readable
      refine ⟨entries, read, eq_of_mem_entries_iff fun name entry => ?_⟩
      rw [(writtenByName_ofList read).kept, writes.kept]
  | null | bool truth | number integer | decimal digits | text content | list items =>
    constructor
    · intro read
      cases read
    · rintro ⟨_, same, -⟩
      cases same

end OverrideTable

/-! ## Settings -/

namespace Settings

variable {settings : Settings} {fields : List (String × Value)}

/-- The fields of a record write the settings: they are distinct and declared, what they
hold writes the policy and the overrides, and what is not written has its default. -/
structure WrittenByName (settings : Settings) (fields : List (String × Value)) : Prop where
  distinct : (fields.map (·.1)).Nodup
  declared : fields.map (·.1) ⊆ ["policy", "languages"]
  policy : Value.FieldGives fields "policy" Policy.WrittenAs .outermost settings.policy
  languages : Value.FieldGives fields "languages" OverrideTable.WrittenAs .empty settings.languages

/-- **Settings are read from the records that write them.** -/
theorem ofValue?_record_eq_some_iff :
    ofValue? (.record fields) = some settings ↔ settings.WrittenByName fields := by
  refine (Value.strict_pair_eq_some_iff Policy.ofValue?_eq_some_iff
    OverrideTable.ofValue?_eq_some_iff Settings.mk).trans ⟨?_, ?_⟩
  · rintro ⟨distinct, declared, _, policy, _, languages, rfl⟩
    exact ⟨distinct, declared, policy, languages⟩
  · intro written
    exact ⟨written.distinct, written.declared, _, written.policy, _, written.languages, rfl⟩

/-- What is wrong with the fields of a record, at the top or in one of its overrides. -/
inductive Flaw (fields : List (String × Value)) : Prop where
  | undeclaredField (key : String) (written : key ∈ fields.map (·.1))
      (undeclared : key ∉ ["policy", "languages"])
  | undeclaredAdjustment (overrides : List (String × Value))
      (languages : ("languages", .record overrides) ∈ fields)
      (name : String) (adjustments : List (String × Value))
      (override : (name, .record adjustments) ∈ overrides)
      (key : String) (written : key ∈ adjustments.map (·.1))
      (undeclared : key ∉ ["structural_kinds", "extra_kinds"])
  | unknownPolicy (name : String) (written : ("policy", .text name) ∈ fields)
      (unknown : name ∉ ["outermost", "innermost"])
  | kindNotText (overrides : List (String × Value))
      (languages : ("languages", .record overrides) ∈ fields)
      (name : String) (value : Value) (override : (name, value) ∈ overrides)
      (items : List Value) (holds : Override.HoldsList items value)
      (item : Value) (written : item ∈ items) (notText : ∀ kind, item ≠ .text kind)

theorem WrittenByName.exists_override (written : settings.WrittenByName fields)
    {overrides : List (String × Value)} (languages : ("languages", .record overrides) ∈ fields)
    {field : String × Value} (listed : field ∈ overrides) :
    ∃ entry : Override, entry.WrittenAs field.2 := by
  obtain ⟨_, same, table⟩ := written.languages.given _ languages
  cases same
  exact table.readable field listed

/-- **Fields with a flaw write no settings.** -/
theorem WrittenByName.not_flaw (written : settings.WrittenByName fields) : ¬ Flaw fields := by
  intro flaw
  cases flaw with
  | undeclaredField key listed undeclared => exact undeclared (written.declared listed)
  | undeclaredAdjustment overrides languages name adjustments listed key inside undeclared =>
    obtain ⟨entry, ⟨_, byName⟩ | _⟩ := written.exists_override languages listed
    exact undeclared (byName.declared inside)
  | unknownPolicy name listed unknown =>
    obtain same | same := written.policy.given _ listed
    · obtain rfl := Value.text.inj same
      revert unknown
      cases settings.policy <;> simp [Policy.name]
    · cases same
  | kindNotText overrides languages name value listed items holds item inside notText =>
    obtain ⟨entry, writes⟩ := written.exists_override languages listed
    obtain ⟨kinds, rfl⟩ := writes.exists_of_holdsList holds
    obtain ⟨kind, -, rfl⟩ := List.mem_map.mp inside
    exact notText kind rfl

/-- **Nothing in settings is ignored, except that under a repeated name only the override
written last counts.** Reading takes a record exactly when its fields write settings, and
gives these settings:

* every field is declared, and so is every field of an override that is written as a record;
* the names of the overrides are exactly those that are written, and there are none when
  none are written;
* under every name stands the override that was written for it last, and those before it
  must be readable but have no other part in the settings
  (`OverrideTable.WrittenByName.kept`);
* every list of kinds in an override that counts is taken over as it is, and a list that is
  not written is missing or empty; only the structural kinds can be written as nothing.

So a field that is not declared, at the top or in an override, a text that is not the name
of a policy and a kind that is not a text make a record unreadable, whatever else is in
it. -/
theorem ofValue?_ignores_nothing (fields : List (String × Value)) :
    (∀ settings, ofValue? (.record fields) = some settings ↔ settings.WrittenByName fields) ∧
      (Flaw fields → ofValue? (.record fields) = none) := by
  refine ⟨fun settings => ofValue?_record_eq_some_iff, ?_⟩
  intro flaw
  cases read : ofValue? (.record fields) with
  | none => rfl
  | some settings => exact absurd flaw (ofValue?_record_eq_some_iff.mp read).not_flaw

/-- Overrides for Python, with a repeated kind and without structural kinds, and for Go,
with nothing in them, are read as they are written. A kind that is not a text and a misspelt
field make a record unreadable although the rest of it is in order. -/
theorem ofValue?_ignores_nothing_of_python_and_go :
    let python : Value := .record
      [("extra_kinds", .list [.text "lambda", .text "block", .text "lambda"]),
        ("structural_kinds", .null)]
    let broken : Value := .record [("extra_kinds", .list [.text "lambda", .null])]
    WrittenByName ⟨.innermost, .ofList [("py", ⟨none, ["lambda", "block", "lambda"]⟩), ("go", {})]⟩
        [("languages", .record [("py", python), ("go", .record [])]),
          ("policy", .text "innermost")] ∧
      ofValue? (.record [("policy", .text "innermost"), ("languages", .record [("py", broken)])]) =
        none ∧
      ofValue? (.record [("polcy", .text "innermost"), ("languages", .record [("py", python)])]) =
        none := by
  intro python broken
  refine ⟨?_, ?_, ?_⟩
  · exact ((ofValue?_ignores_nothing _).1 _).mp (by decide +kernel)
  · refine (ofValue?_ignores_nothing _).2 (.kindNotText [("py", broken)] ?_ "py" broken ?_
      [.text "lambda", .null] (.byName _ "extra_kinds" ?_) .null ?_ ?_)
    all_goals simp
  · exact (ofValue?_ignores_nothing _).2 (.undeclaredField "polcy" (by simp) (by simp))

end Settings

end Enclosure
