import Enclosure.Proofs.KindSet.Members
import Enclosure.Proofs.Settings.Names

/-!
# The kinds that settings make structural

For a language without an override the built-in kinds are structural. An override may
put other kinds in their place, and its extra kinds are added to either
(`Settings.mem_selectionFor`).

Extra kinds are added to settings under a name (`Settings.withExtraKinds`). When the
name stands in the table already, or calls a language without an override, this changes
an override by the extra kinds and by nothing else
(`Settings.overrideFor_withExtraKinds`); so no kind ceases to be structural
(`Settings.mem_selectionFor_withExtraKinds`). Without the condition the new entry could
take the place of an override that has another name for the same language.
-/

set_option autoImplicit false

namespace Enclosure

/-- The override with further extra kinds. -/
def Override.withExtraKinds (entry : Override) (extra : List String) : Override :=
  { entry with extraKinds := entry.extraKinds ++ extra }

namespace OverrideTable

/-! ## The first entry whose name is called -/

variable {entries : List (String × Override)} {name : String} {entry : Override}
  {calls : String → Bool}

/-- An entry under a name that is not called does not show in a search. -/
theorem find?_place_of_not (uncalled : calls name = false) :
    (place name entry entries).find? (calls ·.1) = entries.find? (calls ·.1) := by
  induction entries with
  | nil => simp [place, uncalled]
  | cons head tail ih =>
    unfold place
    split
    · simp [uncalled]
    · split
      · rename_i same
        simp [uncalled, ← same]
      · simp [List.find?_cons, ih]

/-- A search through names that are not before a name finds none before it. -/
theorem filter_find?_eq_none (above : ∀ other ∈ entries, ¬ other.1 < name) :
    (entries.find? (calls ·.1)).filter (·.1 < name) = none := by
  refine Option.filter_eq_none_iff.mpr fun first found => ?_
  simpa using above first (List.mem_of_find?_eq_some found)

/-- An entry under a name that is called is found unless one before it is. -/
theorem find?_place_of_called (ordered : entries.Pairwise (·.1 < ·.1))
    (called : calls name = true) :
    (place name entry entries).find? (calls ·.1) =
      ((entries.find? (calls ·.1)).filter (·.1 < name)).or (some (name, entry)) := by
  induction entries with
  | nil => simp [place, called]
  | cons head tail ih =>
    obtain ⟨below, rest⟩ := List.pairwise_cons.mp ordered
    have notBefore (least : ¬ head.1 < name) : ∀ other ∈ head :: tail, ¬ other.1 < name := by
      rintro other (_ | ⟨_, later⟩)
      · exact least
      · exact fun less => least (String.lt_trans (below other later) less)
    unfold place
    split
    · rename_i less
      rw [filter_find?_eq_none (notBefore fun greater =>
        String.lt_irrefl name (String.lt_trans less greater)), Option.none_or]
      simp [called]
    · split
      · rename_i same
        rw [filter_find?_eq_none (notBefore (same ▸ String.lt_irrefl name)), Option.none_or]
        simp [called]
      · rename_i notLess notSame
        have less : head.1 < name :=
          Std.lt_of_le_of_ne (String.not_lt.mp notLess) fun same => notSame same.symm
        by_cases calledFirst : calls head.1 = true
        · have stays : (some head).filter (·.1 < name) = some head :=
            Option.filter_some_pos (decide_eq_true less)
          simp only [List.find?_cons, calledFirst, stays, Option.some_or]
        · simp [calledFirst, ih rest]

/-- What is found first has the least of the names that are called. -/
theorem eq_or_lt_of_find?_eq_some (ordered : entries.Pairwise (·.1 < ·.1))
    {first other : String × Override} (found : entries.find? (calls ·.1) = some first)
    (member : other ∈ entries) (called : calls other.1 = true) :
    other = first ∨ first.1 < other.1 := by
  obtain ⟨-, before, after, rfl, uncalled⟩ := List.find?_eq_some_iff_append.mp found
  rcases List.mem_append.mp member with inFront | behind
  · have silent := uncalled other inFront
    rw [called] at silent
    cases silent
  · rcases List.mem_cons.mp behind with itself | later
    · exact .inl itself
    · obtain ⟨-, ascending, -⟩ := List.pairwise_append.mp ordered
      exact .inr ((List.pairwise_cons.mp ascending).1 other later)

end OverrideTable

namespace Settings

variable {settings : Settings} {language : Language} {kind : String}

/-- **The kinds that are structural in a language**: the built-in ones, or those that
its override puts in their place, and the extra ones of its override. -/
theorem mem_selectionFor :
    kind ∈ (settings.selectionFor language).kinds.kinds ↔
      match settings.overrideFor language with
      | none => kind ∈ language.kindList
      | some entry =>
        kind ∈ entry.structuralKinds.getD language.kindList ∨ kind ∈ entry.extraKinds := by
  rw [selectionFor]
  cases settings.overrideFor language with
  | none => exact KindSet.mem_ofList
  | some entry =>
    simp only [KindSet.mem_extend]
    cases entry.structuralKinds with
    | none => simp only [Language.kinds, KindSet.mem_ofList, Option.getD_none]
    | some replacement => simp only [KindSet.mem_ofList, Option.getD_some]

/-! ## Adding extra kinds -/

/-- The settings with further extra kinds under a name, for the override that stands
there or for a new one. -/
def withExtraKinds (settings : Settings) (name : String) (extra : List String) : Settings :=
  let entry := (settings.languages.entries.lookup name).getD {}
  { settings with languages := settings.languages.insert name (entry.withExtraKinds extra) }

/-- **Extra kinds change an override by these kinds and by nothing else**, provided that
they are written under a name in the table or for a language without an override. -/
theorem overrideFor_withExtraKinds {name : String} (extra : List String)
    (free : language.answersTo name = true →
      name ∈ settings.languages.names ∨ settings.overrideFor language = none) :
    (settings.withExtraKinds name extra).overrideFor language = settings.overrideFor language ∨
      (settings.withExtraKinds name extra).overrideFor language =
        some (((settings.overrideFor language).getD {}).withExtraKinds extra) := by
  have ordered := settings.languages.ordered
  simp only [withExtraKinds, overrideFor, OverrideTable.insert]
  cases called : language.answersTo name with
  | false => exact .inl (by rw [OverrideTable.find?_place_of_not called])
  | true =>
    rw [OverrideTable.find?_place_of_called ordered called]
    cases found : settings.languages.entries.find? fun entry => language.answersTo entry.1 with
    | none =>
      have unlisted : settings.languages.entries.lookup name = none := by
        refine Option.eq_none_iff_forall_ne_some.mpr fun entry listed => ?_
        have member := OverrideTable.mem_entries_iff_lookup.mpr listed
        exact List.find?_eq_none.mp found (name, entry) member called
      exact .inr (by simp [unlisted])
    | some first =>
      have listed : name ∈ settings.languages.names := by
        rcases free called with listed | silent
        · exact listed
        · rw [overrideFor, found] at silent
          cases silent
      obtain ⟨⟨name, entry⟩, member, rfl⟩ := List.mem_map.mp listed
      rcases OverrideTable.eq_or_lt_of_find?_eq_some ordered found member called with
        rfl | less
      · have own := OverrideTable.mem_entries_iff_lookup.mp member
        have leaves : (some (name, entry)).filter (·.1 < name) = none :=
          Option.filter_some_neg (decide_eq_false (String.lt_irrefl name))
        exact .inr (by simp only [own, leaves, Option.none_or, Option.map_some, Option.getD_some])
      · have stays : (some first).filter (·.1 < name) = some first :=
          Option.filter_some_pos (decide_eq_true less)
        exact .inl (by simp only [stays, Option.some_or])

/-- **Extra kinds take no kind away.** -/
theorem mem_selectionFor_withExtraKinds {name : String} {extra : List String}
    (free : language.answersTo name = true →
      name ∈ settings.languages.names ∨ settings.overrideFor language = none)
    (structural : kind ∈ (settings.selectionFor language).kinds.kinds) :
    kind ∈ ((settings.withExtraKinds name extra).selectionFor language).kinds.kinds := by
  rw [mem_selectionFor] at structural ⊢
  rcases overrideFor_withExtraKinds extra free with same | grown
  · rwa [same]
  · rw [grown]
    cases entry : settings.overrideFor language with
    | none =>
      rw [entry] at structural
      exact .inl structural
    | some written =>
      rw [entry] at structural
      exact structural.imp id (List.mem_append_left extra)

end Settings

end Enclosure
