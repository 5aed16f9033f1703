import Enclosure.Proofs.Settings.Names
import Enclosure.Settings.Yaml
import Mathlib.Data.List.Forall2

/-!
# What a reading of a document gives

Reading settings follows references, counts them, and refuses what has the wrong
shape. What is read, when something is read, does not depend on the count: it is
the text or the mapping that the place means. So places are described here by
what they mean, without counting (`Place.meant`, `Place.scalar?`,
`Place.mapping?`, `Place.field?`), and every reading that succeeds gives what the
description says (`Place.scalar?_of_gives_text`, `Place.mapping?_of_gives_fields`,
`Place.lookup_of_gives_declared`).

The statements go from a successful reading to the description. They are about
one successful run with some allowance of references, and a reading made of parts
is taken apart into the readings of the parts (`gives_bind`, `gives_mapM`).
-/

set_option autoImplicit false

namespace Enclosure.Yaml

/-- The reading succeeds with the value, for some number of references that may
be followed. -/
def Gives {α : Type} (reading : Reading α) (value : α) : Prop :=
  ∃ before after, reading.run before = .ok (value, after)

variable {α β : Type}

/-! ## Readings made of parts -/

theorem gives_pure {value result : α} (given : Gives (pure value) result) : result = value := by
  obtain ⟨before, after, ran⟩ := given
  cases ran
  rfl

theorem not_gives_throw {problem : Problem} {result : α} :
    ¬ Gives (throw problem) result := by
  rintro ⟨before, after, ran⟩
  cases ran

theorem gives_bind {first : Reading α} {next : α → Reading β} {result : β}
    (given : Gives (first >>= next) result) :
    ∃ value, Gives first value ∧ Gives (next value) result := by
  obtain ⟨before, after, ran⟩ := given
  rw [StateT.run_bind] at ran
  cases started : first.run before with
  | error problem =>
    rw [started] at ran
    cases ran
  | ok pair =>
    rw [started] at ran
    exact ⟨pair.1, ⟨before, pair.2, started⟩, ⟨pair.2, after, ran⟩⟩

/-- A reading from a given allowance gives what it results in. -/
theorem gives_of_run' {reading : Reading α} {allowance : Nat} {result : α}
    (ran : reading.run' allowance = .ok result) : Gives reading result := by
  rw [StateT.run'] at ran
  cases finished : reading allowance with
  | error problem =>
    rw [finished] at ran
    cases ran
  | ok pair =>
    rw [finished] at ran
    cases ran
    exact ⟨allowance, pair.2, finished⟩

/-- What follows a refusal that did not happen. -/
theorem gives_of_unless_throw {condition : Prop} [Decidable condition] {problem : Problem}
    {refused : Unit → Reading α} {next : Reading α} {result : α}
    (given : Gives (if condition then throw problem >>= refused else next) result) :
    Gives next result := by
  split at given
  · obtain ⟨_, thrown, _⟩ := gives_bind given
    exact absurd thrown not_gives_throw
  · exact given

theorem gives_mapM {reading : α → Reading β} {inputs : List α} {results : List β}
    (given : Gives (inputs.mapM reading) results) :
    List.Forall₂ (fun input result => Gives (reading input) result) inputs results := by
  induction inputs generalizing results with
  | nil =>
    rw [List.mapM_nil] at given
    rw [gives_pure given]
    exact .nil
  | cons input inputs ih =>
    rw [List.mapM_cons] at given
    obtain ⟨result, read, given⟩ := gives_bind given
    obtain ⟨rest, readRest, given⟩ := gives_bind given
    rw [gives_pure given]
    exact .cons read (ih readRest)

namespace Place

/-! ## What a place means -/

/-- The node that a place means: where a reference leads, or the node itself. -/
def meant (place : Place) : Node :=
  match place.node with
  | .reference anchor => (place.meanings.lookup anchor).getD place.node
  | node => node

/-- The text that a place means, if it means a scalar. -/
def scalar? (place : Place) : Option String :=
  match place.meant with
  | .scalar text _ _ => some text
  | _ => none

/-- The names and values, in the order in which they are written, of the mapping
that a place means, if it means one. -/
def mapping? (place : Place) : Option (List (Place × Place)) :=
  match place.meant with
  | .mapping fields _ =>
    some (fields.map fun (name, value) => (place.moveTo name, place.moveTo value))
  | _ => none

/-- The value under a name among the names and values of a mapping. -/
def valueUnder? (name : String) (fields : List (Place × Place)) : Option Place :=
  (fields.find? fun field => field.1.scalar? == some name).map (·.2)

/-- The value under a name in the mapping that a place means. -/
def field? (place : Place) (name : String) : Option Place :=
  place.mapping?.bind (valueUnder? name)

/-! ## Reading what is meant -/

variable {place : Place}

theorem eq_of_gives_resolve {found : Place} (given : Gives place.resolve found) :
    found = place.moveTo place.meant := by
  unfold resolve at given
  unfold meant
  cases node : place.node with
  | reference anchor =>
    simp only [node] at given
    obtain ⟨allowance, _, given⟩ := gives_bind given
    cases allowance with
    | zero => exact absurd given not_gives_throw
    | succ left =>
      obtain ⟨_, _, given⟩ := gives_bind given
      exact gives_pure given
  | scalar text plain properties | sequence items properties | mapping fields properties =>
    simp only [node] at given
    rw [gives_pure given]
    exact congrArg place.moveTo node

theorem scalar?_of_gives_text {text : String} (given : Gives place.text text) :
    place.scalar? = some text := by
  obtain ⟨found, resolved, given⟩ := gives_bind given
  rw [eq_of_gives_resolve resolved] at given
  unfold scalar?
  cases meant : place.meant with
  | scalar written plain properties =>
    simp only [moveTo, meant] at given
    rw [gives_pure given]
  | reference anchor | sequence items properties | mapping fields properties =>
    simp only [moveTo, meant] at given
    exact absurd given not_gives_throw

theorem mapping?_of_gives_fields {fields written : List (Place × Place)}
    (given : Gives place.fields fields) (mapping : place.mapping? = some written) :
    fields = written := by
  obtain ⟨found, resolved, given⟩ := gives_bind given
  rw [eq_of_gives_resolve resolved] at given
  unfold mapping? at mapping
  cases meant : place.meant with
  | mapping pairs properties =>
    simp only [meant] at mapping
    simp only [moveTo, meant] at given
    rw [gives_pure given]
    exact Option.some.inj mapping
  | reference anchor | scalar text plain properties | sequence items properties =>
    simp only [meant] at mapping
    cases mapping

/-- The declared fields of a mapping are found under the names that its fields
mean. -/
theorem lookup_of_gives_declared {names : List String} {fields : List (Place × Place)}
    {found : List (String × Place)} (given : Gives (declared names fields) found)
    (name : String) :
    found.lookup name = valueUnder? name fields := by
  induction fields generalizing found with
  | nil =>
    rw [declared] at given
    rw [gives_pure given]
    rfl
  | cons field fields ih =>
    rw [declared] at given
    obtain ⟨written, read, given⟩ := gives_bind given
    obtain ⟨rest, readRest, given⟩ := gives_bind (gives_of_unless_throw given)
    rw [gives_pure (gives_of_unless_throw given), lookup_cons_eq_ite, ih readRest]
    unfold valueUnder?
    rw [List.find?_cons, scalar?_of_gives_text read]
    by_cases same : name = written
    · simp [same]
    · have other : (some written == some name) = false :=
        beq_eq_false_iff_ne.mpr fun equal => same (Option.some.inj equal).symm
      rw [if_neg same, other]

end Place

end Enclosure.Yaml
