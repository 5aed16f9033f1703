import Enclosure.Language

/-!
# Settings

Settings choose a selection policy and adjust, language by language, which
kinds are structural. The adjustments are kept under the name by which the
settings call the language, in ascending order of these names.

Settings that were read from a text are validated: every name must call a
built-in language, and no language may be called twice, whether by two aliases
or by two spellings of one.
-/

set_option autoImplicit false

namespace Enclosure

/-- The adjustments for one language. -/
structure Override where
  /-- Takes the place of the built-in kinds when given. -/
  structuralKinds : Option (List String) := none
  /-- Added to the built-in kinds or to what took their place. -/
  extraKinds : List String := []
deriving DecidableEq, Inhabited

/-- Overrides by name, in strictly ascending order of the names. -/
structure OverrideTable where
  entries : List (String × Override)
  ordered : entries.Pairwise (·.1 < ·.1)
deriving DecidableEq

namespace OverrideTable

/-- Put an entry at its place in an ascending list; an entry under the same name
gives way. -/
def place (name : String) (entry : Override) :
    List (String × Override) → List (String × Override)
  | [] => [(name, entry)]
  | head :: tail =>
    if name < head.1 then (name, entry) :: head :: tail
    else if name = head.1 then (name, entry) :: tail
    else head :: place name entry tail

theorem fst_of_mem_place {name : String} {entry : Override} {other : String × Override}
    {entries : List (String × Override)} (member : other ∈ place name entry entries) :
    other.1 = name ∨ other ∈ entries := by
  induction entries with
  | nil => simp_all [place]
  | cons head tail ih =>
    unfold place at member
    split at member
    · rcases List.mem_cons.mp member with same | later
      · exact .inl (by simp [same])
      · exact .inr later
    · split at member
      · rcases List.mem_cons.mp member with same | later
        · exact .inl (by simp [same])
        · exact .inr (List.mem_cons_of_mem _ later)
      · rcases List.mem_cons.mp member with same | later
        · exact .inr (by simp [same])
        · rcases ih later with same | further
          · exact .inl same
          · exact .inr (List.mem_cons_of_mem _ further)

theorem pairwise_place (name : String) (entry : Override) {entries : List (String × Override)}
    (ordered : entries.Pairwise (·.1 < ·.1)) :
    (place name entry entries).Pairwise (·.1 < ·.1) := by
  induction entries with
  | nil => simp [place]
  | cons head tail ih =>
    have ⟨below, rest⟩ := List.pairwise_cons.mp ordered
    unfold place
    split
    · rename_i less
      refine List.pairwise_cons.mpr ⟨?_, ordered⟩
      intro other member
      rcases List.mem_cons.mp member with same | later
      · exact same ▸ less
      · exact String.lt_trans less (below other later)
    · split
      · rename_i same
        refine List.pairwise_cons.mpr ⟨?_, rest⟩
        intro other member
        exact same ▸ below other member
      · rename_i notLess notSame
        refine List.pairwise_cons.mpr ⟨?_, ih rest⟩
        intro other member
        rcases fst_of_mem_place member with same | later
        · rw [same]
          exact Std.lt_of_le_of_ne (String.not_lt.mp notLess) (fun same => notSame same.symm)
        · exact below other later

/-- The table without entries. -/
def empty : OverrideTable := ⟨[], .nil⟩

/-- The table with an entry, in place of one under the same name. -/
def insert (table : OverrideTable) (name : String) (entry : Override) : OverrideTable :=
  ⟨place name entry table.entries, pairwise_place name entry table.ordered⟩

/-- The table without the entry under a name. -/
def erase (table : OverrideTable) (name : String) : OverrideTable :=
  ⟨table.entries.filter (·.1 != name), table.ordered.filter _⟩

/-- The table of a list of entries; of two under one name the later stays. -/
def ofList (entries : List (String × Override)) : OverrideTable :=
  entries.foldl (fun table entry => table.insert entry.1 entry.2) empty

/-- The names, in ascending order. -/
def names (table : OverrideTable) : List String := table.entries.map (·.1)

instance : Inhabited OverrideTable := ⟨empty⟩

end OverrideTable

/-- A selection policy and overrides by language. -/
structure Settings where
  policy : Policy := .outermost
  languages : OverrideTable := .empty
deriving DecidableEq, Inhabited

namespace Settings

/-- The settings with another policy. -/
def withPolicy (settings : Settings) (policy : Policy) : Settings :=
  { settings with policy := policy }

/-- Go through names in order, with the languages called so far and the names
that called them. -/
def checkNames : (seen : List (Language × String)) → List String → Except SettingsProblem Unit
  | _, [] => .ok ()
  | seen, name :: rest =>
    match Language.named? name with
    | none => .error (.unknownLanguage name)
    | some language =>
      match seen.lookup language with
      | some earlier => .error (.configuredTwice language.name earlier name)
      | none => checkNames ((language, name) :: seen) rest

/-- Every name calls a built-in language, and no language is called twice. -/
def validate (settings : Settings) : Except SettingsProblem Unit :=
  checkNames [] settings.languages.names

/-- The override for a language: the first whose name calls it. -/
def overrideFor (settings : Settings) (language : Language) : Option Override :=
  (settings.languages.entries.find? fun entry => language.answersTo entry.1).map (·.2)

/-- **What to select in the trees of a language**: its built-in kinds as
adjusted, and the policy. -/
def selectionFor (settings : Settings) (language : Language) : Selection where
  kinds :=
    match settings.overrideFor language with
    | none => language.kinds
    | some entry =>
      let base :=
        match entry.structuralKinds with
        | none => language.kinds
        | some replacement => .ofList replacement
      base.extend entry.extraKinds
  policy := settings.policy

end Settings

end Enclosure
