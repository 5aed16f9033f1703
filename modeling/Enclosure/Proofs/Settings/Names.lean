import Enclosure.Settings
import Mathlib.Data.List.Dedup
import Mathlib.Data.List.Induction
import Mathlib.Data.List.Pairwise

/-!
# The names in settings

Overrides are written as a list and kept as a table, and the table is what is
validated. Two questions are answered here.

What does the table keep of the list? A name of the list is a name of the table,
and there it stands once, with the override that was written for it last
(`OverrideTable.lookup_ofList`, `OverrideTable.names_ofList`). So the table is as
long as the list exactly when no name is written twice
(`OverrideTable.length_ofList_eq_iff`).

Which tables are valid? The check goes through the names in order and remembers
the languages that were called. It accepts exactly when every name calls a
language and different names call different languages
(`Settings.validate_eq_ok_iff`), whatever the order.
-/

set_option autoImplicit false

namespace Enclosure

/-- The first pair is found when its key is asked for. -/
theorem lookup_cons_eq_ite {κ α : Type} [DecidableEq κ] (head : κ × α) (rest : List (κ × α))
    (key : κ) :
    (head :: rest).lookup key = if key = head.1 then some head.2 else rest.lookup key := by
  rw [List.lookup_cons]
  by_cases same : key = head.1
  · rw [if_pos same, beq_iff_eq.mpr same]
  · rw [if_neg same, beq_eq_false_iff_ne.mpr same]

namespace OverrideTable

/-! ## Lists of entries and the tables they become -/

variable {entries : List (String × Override)} {table : OverrideTable} {name : String}

/-- An entry is found under its name where it was put, and every other name finds
what it found before. -/
theorem lookup_place (name : String) (entry : Override) (entries : List (String × Override))
    (other : String) :
    (place name entry entries).lookup other =
      if other = name then some entry else entries.lookup other := by
  induction entries with
  | nil => rw [place, lookup_cons_eq_ite]
  | cons head tail ih =>
    unfold place
    split
    · rw [lookup_cons_eq_ite]
    · split
      · rename_i found
        rw [lookup_cons_eq_ite, lookup_cons_eq_ite head, ← found]
        split <;> rfl
      · rename_i different
        rw [lookup_cons_eq_ite, ih, lookup_cons_eq_ite head]
        by_cases same : other = name
        · rw [if_pos same, same, if_neg different, if_pos rfl]
        · rw [if_neg same, if_neg same]

/-- **Of two overrides under one name the later counts**: the table finds what the
list finds from its end. -/
theorem lookup_ofList (entries : List (String × Override)) (name : String) :
    (ofList entries).entries.lookup name = entries.reverse.lookup name := by
  -- A table grows by the entry that is written next, so the list grows at its end.
  induction entries using List.reverseRecOn with
  | nil => rfl
  | append_singleton earlier last ih =>
    have grown : ofList (earlier ++ [last]) = (ofList earlier).insert last.1 last.2 := by
      rw [ofList, ofList, List.foldl_concat]
    rw [grown, insert, lookup_place, ih, List.reverse_concat, lookup_cons_eq_ite]

theorem mem_keys_iff_lookup_isSome :
    name ∈ entries.map (·.1) ↔ (entries.lookup name).isSome := by
  induction entries with
  | nil => simp
  | cons head tail ih =>
    rw [List.map_cons, List.mem_cons, ih, lookup_cons_eq_ite]
    by_cases same : name = head.1 <;> simp [same]

theorem mem_names_ofList :
    name ∈ (ofList entries).names ↔ name ∈ entries.map (·.1) := by
  rw [names, mem_keys_iff_lookup_isSome, lookup_ofList, ← mem_keys_iff_lookup_isSome,
    List.map_reverse, List.mem_reverse]

theorem nodup_names (table : OverrideTable) : table.names.Nodup := by
  rw [names, List.Nodup, List.pairwise_map]
  refine table.ordered.imp ?_
  intro first second less same
  exact String.lt_irrefl second.1 (same ▸ less)

/-- An entry stands in a table exactly when its name finds it. -/
theorem mem_entries_iff_lookup {entry : Override} :
    (name, entry) ∈ table.entries ↔ table.entries.lookup name = some entry := by
  obtain ⟨entries, ordered⟩ := table
  induction entries with
  | nil => simp
  | cons head tail ih =>
    have ⟨below, rest⟩ := List.pairwise_cons.mp ordered
    rw [List.mem_cons, lookup_cons_eq_ite]
    by_cases same : name = head.1
    · have absent : (name, entry) ∉ tail := by
        intro later
        have less : head.1 < name := below (name, entry) later
        exact String.lt_irrefl name (same ▸ less)
      simp [same, Prod.ext_iff, eq_comm, same ▸ absent]
    · have other : (name, entry) ≠ head := fun equal => same (congrArg Prod.fst equal)
      simpa [same, other] using ih rest

/-- Tables with the same entries are the same. -/
theorem eq_of_mem_entries_iff {other : OverrideTable}
    (same : ∀ name entry, (name, entry) ∈ table.entries ↔ (name, entry) ∈ other.entries) :
    table = other := by
  have shuffled : table.entries.Perm other.entries := by
    refine (List.perm_ext_iff_of_nodup table.nodup_names.of_map other.nodup_names.of_map).mpr ?_
    rintro ⟨name, entry⟩
    exact same name entry
  have equal : table.entries = other.entries := by
    refine shuffled.eq_of_pairwise ?_ table.ordered other.ordered
    intro first second _ _ less greater
    exact absurd (String.lt_trans less greater) (String.lt_irrefl first.1)
  obtain ⟨entries, ordered⟩ := table
  cases equal
  rfl

/-- **The names of a table are the names of the list that it was made from, each
of them once.** -/
theorem names_ofList (entries : List (String × Override)) :
    (ofList entries).names.Perm (entries.map (·.1)).dedup := by
  refine (List.perm_ext_iff_of_nodup (nodup_names _) (List.nodup_dedup _)).mpr ?_
  intro name
  rw [mem_names_ofList, List.mem_dedup]

/-- **No override is lost exactly when no name is written twice.** -/
theorem length_ofList_eq_iff :
    (ofList entries).entries.length = entries.length ↔ (entries.map (·.1)).Nodup := by
  have kept : (ofList entries).entries.length = (entries.map (·.1)).dedup.length := by
    rw [← (names_ofList entries).length_eq, names, List.length_map]
  have written : entries.length = (entries.map (·.1)).length := (List.length_map _).symm
  rw [kept, written, ← List.dedup_eq_self]
  exact ⟨(List.dedup_sublist _).eq_of_length, congrArg List.length⟩

end OverrideTable

namespace Settings

/-! ## The check of the names -/

/-- The check accepts when every name calls a language that was not called before
and no two of the names call the same one. -/
theorem checkNames_eq_ok_iff (seen : List (Language × String)) (names : List String) :
    checkNames seen names = .ok () ↔
      (∀ name ∈ names, ∃ language, Language.named? name = some language ∧
        seen.lookup language = none) ∧
      names.Pairwise fun first second => Language.named? first ≠ Language.named? second := by
  induction names generalizing seen with
  | nil => simp [checkNames]
  | cons name rest ih =>
    rw [List.forall_mem_cons, List.pairwise_cons]
    cases called : Language.named? name with
    | none => simp [checkNames, called]
    | some language =>
      cases earlier : seen.lookup language with
      | some before =>
        simp only [checkNames, called, earlier]
        constructor
        · intro accepted
          cases accepted
        · rintro ⟨⟨⟨other, same, unseen⟩, _⟩, _⟩
          cases same
          rw [earlier] at unseen
          cases unseen
      | none =>
        -- What is remembered for the rest is what was remembered, and this language.
        have remembered : ∀ other : Language,
            ((language, name) :: seen).lookup other = none ↔
              some other ≠ some language ∧ seen.lookup other = none := by
          intro other
          rw [lookup_cons_eq_ite]
          by_cases same : other = language <;> simp [same]
        simp only [checkNames, called, earlier, ih, remembered]
        grind

theorem injective_of_checkNames {seen : List (Language × String)} {names : List String}
    (accepted : checkNames seen names = .ok ()) :
    ∀ first ∈ names, ∀ second ∈ names,
      Language.named? first = Language.named? second → first = second := by
  intro first firstListed second secondListed same
  have symmetric : Std.Symm fun first second =>
      Language.named? first ≠ Language.named? second := ⟨fun _ _ => Ne.symm⟩
  by_contra different
  exact ((checkNames_eq_ok_iff seen names).mp accepted).2.forall firstListed secondListed
    different same

/-- **Settings are valid exactly when every name calls a language and different
names call different languages.** -/
theorem validate_eq_ok_iff {settings : Settings} :
    settings.validate = .ok () ↔
      (∀ name ∈ settings.languages.names, (Language.named? name).isSome) ∧
      ∀ first ∈ settings.languages.names, ∀ second ∈ settings.languages.names,
        Language.named? first = Language.named? second → first = second := by
  have distinct := settings.languages.nodup_names
  constructor
  · intro accepted
    have ⟨known, _⟩ := (checkNames_eq_ok_iff [] settings.languages.names).mp accepted
    refine ⟨?_, injective_of_checkNames accepted⟩
    intro name listed
    obtain ⟨language, calls, -⟩ := known name listed
    exact Option.isSome_iff_exists.mpr ⟨language, calls⟩
  · rintro ⟨known, injective⟩
    refine (checkNames_eq_ok_iff [] settings.languages.names).mpr ⟨?_, ?_⟩
    · intro name listed
      obtain ⟨language, calls⟩ := Option.isSome_iff_exists.mp (known name listed)
      exact ⟨language, calls, rfl⟩
    · refine distinct.pairwise_of_forall_ne ?_
      intro first firstListed second secondListed different same
      exact different (injective first firstListed second secondListed same)

end Settings

end Enclosure
