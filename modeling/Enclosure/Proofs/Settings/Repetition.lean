import Enclosure.Proofs.Settings.Reading

/-!
# A language that is configured twice

A settings text writes its overrides as a mapping, and validation is to refuse a
text that names one language twice. But what is validated is the table that the
mapping became, and a table has every name once. So two names of one language are
seen and refused when they are written differently, and a name that is repeated
letter for letter is not seen: the text is accepted, and of the overrides under
that name all but the last are lost.

`Settings.writtenOverrides?` gives the names and values under `languages` as they
stand in the text, before any of them can be lost. Against it the statement about
all texts, `Settings.ofYaml_of_writtenOverrides`, says which texts are refused and
which overrides are kept.
-/

set_option autoImplicit false

namespace Enclosure

open Yaml (Place Gives)

/-- The language that the text at a place calls by name. -/
def Yaml.Place.language? (place : Place) : Option Language :=
  place.scalar?.bind Language.named?

/-- **The names and values that a text writes under `languages`**, in the order in
which they stand there, if what stands there is a mapping. -/
def Settings.writtenOverrides? (text : String) : Option (List (Place × Place)) :=
  match Yaml.document text with
  | .ok (some root) => ((Place.ofRoot root).field? "languages").bind Place.mapping?
  | _ => none

namespace OverrideTable

/-- A name and an override are what two places hold. -/
def Written (field : Place × Place) (entry : String × Override) : Prop :=
  field.1.scalar? = some entry.1 ∧ Gives (Override.ofPlace field.2) entry.2

variable {fields : List (Place × Place)} {entries : List (String × Override)}

theorem written_of_gives {field : Place × Place} {entry : String × Override}
    (given : Gives (entryOfPlaces field) entry) : Written field entry := by
  obtain ⟨name, named, given⟩ := Yaml.gives_bind given
  obtain ⟨override, read, given⟩ := Yaml.gives_bind given
  rw [Yaml.gives_pure given]
  exact ⟨Place.scalar?_of_gives_text named, read⟩

/-- A table that is read from a mapping is made from the entries written there. -/
theorem ofList_of_gives {place : Place} {table : OverrideTable}
    (given : Gives (ofPlace place) table) (mapping : place.mapping? = some fields) :
    ∃ entries, List.Forall₂ Written fields entries ∧ table = ofList entries := by
  obtain ⟨found, read, given⟩ := Yaml.gives_bind given
  obtain ⟨entries, readEntries, given⟩ := Yaml.gives_bind given
  rw [Place.mapping?_of_gives_fields read mapping] at readEntries
  exact ⟨entries, (Yaml.gives_mapM readEntries).imp fun _ _ => written_of_gives,
    Yaml.gives_pure given⟩

/-- The names of the entries are the texts at the places of the names. -/
theorem map_scalar?_of_written (written : List.Forall₂ Written fields entries) :
    fields.map (·.1.scalar?) = entries.map fun entry => some entry.1 := by
  induction written with
  | nil => rfl
  | cons first _ ih => rw [List.map_cons, List.map_cons, ih, first.1]

/-- What holds of the text at the place of every name holds of every name in the
table. -/
theorem forall_names_iff (written : List.Forall₂ Written fields entries)
    (holds : Option String → Prop) :
    (∀ name ∈ (ofList entries).names, holds (some name)) ↔
      ∀ field ∈ fields, holds field.1.scalar? := by
  calc (∀ name ∈ (ofList entries).names, holds (some name))
      ↔ ∀ text ∈ entries.map (fun entry => some entry.1), holds text := by
        simp only [mem_names_ofList, List.forall_mem_map]
    _ ↔ ∀ text ∈ fields.map (·.1.scalar?), holds text := by
        rw [map_scalar?_of_written written]
    _ ↔ ∀ field ∈ fields, holds field.1.scalar? := List.forall_mem_map

end OverrideTable

namespace Settings

variable {text : String} {settings : Settings} {fields : List (Place × Place)}

/-! ## From the text to the entries -/

theorem gives_languages {place value : Place} (given : Gives (ofPlace place) settings)
    (found : place.field? "languages" = some value) :
    Gives (OverrideTable.ofPlace value) settings.languages := by
  obtain ⟨written, mapping, under⟩ := Option.bind_eq_some_iff.mp found
  obtain ⟨read, readFields, given⟩ := Yaml.gives_bind given
  obtain ⟨declared, readDeclared, given⟩ := Yaml.gives_bind given
  rw [Place.mapping?_of_gives_fields readFields mapping] at readDeclared
  have located : declared.lookup "languages" = some value := by
    rw [Place.lookup_of_gives_declared readDeclared, under]
  simp only [located] at given
  -- Whichever way the policy is read, the languages are read after it.
  have followed : ∃ policy, Gives
      (OverrideTable.ofPlace value >>= fun languages => pure ⟨policy, languages⟩) settings := by
    split at given
    · exact (Yaml.gives_bind given).imp fun _ => And.right
    · exact (Yaml.gives_bind given).imp fun _ => And.right
  obtain ⟨policy, given⟩ := followed
  obtain ⟨languages, readLanguages, given⟩ := Yaml.gives_bind given
  rw [Yaml.gives_pure given]
  exact readLanguages

theorem gives_of_readYaml {root : Yaml.Node} (read : readYaml text = .ok settings)
    (document : Yaml.document text = .ok (some root)) :
    Gives (ofPlace (Place.ofRoot root)) settings := by
  unfold readYaml at read
  rw [document] at read
  exact Yaml.gives_of_run' read

/-- **What is read under `languages` is the table of the entries that are written
there.** -/
theorem languages_of_readYaml (written : writtenOverrides? text = some fields)
    (read : readYaml text = .ok settings) :
    ∃ entries, List.Forall₂ OverrideTable.Written fields entries ∧
      settings.languages = .ofList entries := by
  unfold writtenOverrides? at written
  split at written
  · rename_i root document
    obtain ⟨value, found, mapping⟩ := Option.bind_eq_some_iff.mp written
    exact OverrideTable.ofList_of_gives (gives_languages (gives_of_readYaml read document) found)
      mapping
  · cases written

/-! ## Which texts are refused -/

theorem ofYaml_eq_ok_iff :
    ofYaml text = .ok settings ↔ readYaml text = .ok settings ∧ settings.validate = .ok () := by
  unfold ofYaml
  cases readYaml text with
  | error problem => simp
  | ok found => cases checked : found.validate <;> grind

/-- Settings from a text are valid exactly when every name that is written there
calls a language and names of one language are written alike. -/
theorem validate_eq_ok_iff_of_written {entries : List (String × Override)}
    (written : List.Forall₂ OverrideTable.Written fields entries)
    (kept : settings.languages = .ofList entries) :
    settings.validate = .ok () ↔
      (∀ field ∈ fields, field.1.language?.isSome) ∧
      ∀ first ∈ fields, ∀ second ∈ fields,
        first.1.language? = second.1.language? → first.1.scalar? = second.1.scalar? := by
  have names_iff := OverrideTable.forall_names_iff written
  rw [validate_eq_ok_iff, kept]
  refine and_congr (names_iff fun text => (text.bind Language.named?).isSome) ?_
  calc (∀ first ∈ (OverrideTable.ofList entries).names,
          ∀ second ∈ (OverrideTable.ofList entries).names,
            Language.named? first = Language.named? second → first = second)
      ↔ ∀ first ∈ (OverrideTable.ofList entries).names, ∀ second ∈ fields,
          Language.named? first = second.1.language? → some first = second.1.scalar? := by
        refine forall₂_congr fun first _ => ?_
        refine Iff.trans ?_ (names_iff fun text =>
          Language.named? first = text.bind Language.named? → some first = text)
        simp only [Option.bind_some, Option.some.injEq]
    _ ↔ ∀ first ∈ fields, ∀ second ∈ fields,
          first.1.language? = second.1.language? → first.1.scalar? = second.1.scalar? :=
        names_iff fun text => ∀ second ∈ fields,
          text.bind Language.named? = second.1.language? → text = second.1.scalar?

/-- As many overrides are kept as are written exactly when no name is written
twice. -/
theorem length_languages_eq_iff {entries : List (String × Override)}
    (written : List.Forall₂ OverrideTable.Written fields entries)
    (kept : settings.languages = .ofList entries) :
    settings.languages.entries.length = fields.length ↔ (fields.map (·.1.scalar?)).Nodup := by
  have names : fields.map (·.1.scalar?) = (entries.map (·.1)).map some := by
    rw [OverrideTable.map_scalar?_of_written written, List.map_map]
    rfl
  rw [kept, written.length_eq, OverrideTable.length_ofList_eq_iff, names]
  exact (List.nodup_map_iff fun _ _ => Option.some.inj).symm

/-- **A text that writes two names of one language differently is refused, and a
name that is repeated letter for letter is not noticed.** For a text that can be
read at all, the names are accepted exactly when every one of them calls a
language and names of one language are written alike. An override is lost exactly
when a name is repeated, and what is kept for a name is the last that is written
for it. -/
theorem ofYaml_of_writtenOverrides (written : writtenOverrides? text = some fields) :
    (∀ first ∈ fields, ∀ second ∈ fields, ∀ language,
      first.1.language? = some language → second.1.language? = some language →
      first.1.scalar? ≠ second.1.scalar? → ∃ fault, ofYaml text = .error fault) ∧
    ∀ settings, readYaml text = .ok settings →
      (ofYaml text = .ok settings ↔
        (∀ field ∈ fields, field.1.language?.isSome) ∧
        ∀ first ∈ fields, ∀ second ∈ fields,
          first.1.language? = second.1.language? → first.1.scalar? = second.1.scalar?) ∧
      (settings.languages.entries.length = fields.length ↔
        (fields.map (·.1.scalar?)).Nodup) ∧
      ∃ entries, List.Forall₂ OverrideTable.Written fields entries ∧
        ∀ name entry, (name, entry) ∈ settings.languages.entries ↔
          entries.reverse.lookup name = some entry := by
  constructor
  · intro first firstWritten second secondWritten language firstCalls secondCalls different
    cases loaded : ofYaml text with
    | error fault => exact ⟨fault, rfl⟩
    | ok settings =>
      obtain ⟨read, valid⟩ := ofYaml_eq_ok_iff.mp loaded
      obtain ⟨entries, entriesWritten, kept⟩ := languages_of_readYaml written read
      have alike := ((validate_eq_ok_iff_of_written entriesWritten kept).mp valid).2
      exact absurd (alike first firstWritten second secondWritten
        (firstCalls.trans secondCalls.symm)) different
  · intro settings read
    obtain ⟨entries, entriesWritten, kept⟩ := languages_of_readYaml written read
    refine ⟨?_, length_languages_eq_iff entriesWritten kept, entries, entriesWritten, ?_⟩
    · rw [ofYaml_eq_ok_iff, ← validate_eq_ok_iff_of_written entriesWritten kept]
      exact and_iff_right read
    · intro name entry
      rw [OverrideTable.mem_entries_iff_lookup, kept, OverrideTable.lookup_ofList]

/-- The names `py` and `Python` call one language and are written differently. -/
theorem ofYaml_of_py_and_Python :
    ∃ fields, writtenOverrides? "languages:\n  py:\n  Python:\n" = some fields ∧
      fields.map (·.1.scalar?) = [some "py", some "Python"] ∧
      ∃ fault, ofYaml "languages:\n  py:\n  Python:\n" = .error fault := by
  have names : (writtenOverrides? "languages:\n  py:\n  Python:\n").map
      (·.map (·.1.scalar?)) = some [some "py", some "Python"] := by
    decide +kernel
  obtain ⟨fields, written, names⟩ := Option.map_eq_some_iff.mp names
  obtain ⟨first, firstWritten, firstText⟩ : ∃ field ∈ fields, field.1.scalar? = some "py" := by
    rw [← List.mem_map, names]
    decide
  obtain ⟨second, secondWritten, secondText⟩ :
      ∃ field ∈ fields, field.1.scalar? = some "Python" := by
    rw [← List.mem_map, names]
    decide
  refine ⟨fields, written, names, ?_⟩
  refine (ofYaml_of_writtenOverrides written).1 first firstWritten second secondWritten .python
    ?_ ?_ ?_
  · rw [Yaml.Place.language?, firstText]
    decide +kernel
  · rw [Yaml.Place.language?, secondText]
    decide +kernel
  · rw [firstText, secondText]
    decide

/-- Two overrides stand under one name. The text is accepted, and the first of them
is lost. -/
theorem ofYaml_of_python_repeated :
    (writtenOverrides?
      "languages:\n  python:\n    extra_kinds: [a]\n  python:\n    extra_kinds: [b]\n").map
      (·.map (·.1.language?)) = some [some .python, some .python] ∧
    (ofYaml
      "languages:\n  python:\n    extra_kinds: [a]\n  python:\n    extra_kinds: [b]\n").toOption.map
      (·.languages.entries) = some [("python", ⟨none, ["b"]⟩)] := by
  decide +kernel

end Settings

end Enclosure
