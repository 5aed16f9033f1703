import Enclosure.Language

/-!
# The language that a name calls

A name is looked up in two ways: one goes through the languages in order and takes
the first that answers to the name, the other asks one language whether it answers.
They agree on every text (`Language.named?_eq_some_iff`), because no two languages
answer to the same name (`Language.eq_of_answersTo`).

That is a fact about the names and aliases themselves, which are few. It reaches
all texts because a language answers to a text exactly when it has the text's lower
case form among its own.
-/

set_option autoImplicit false

namespace Enclosure.Language

variable {text : String} {language other : Language}

/-- The names by which a language is called, in lower case. -/
def callNames (language : Language) : List String :=
  (language.name :: language.aliases).map Text.lower

theorem mem_all (language : Language) : language ∈ all := by
  cases language <;> decide

theorem answersTo_iff : language.answersTo text = true ↔ Text.lower text ∈ language.callNames := by
  simp only [answersTo, callNames, Text.sameLetters, List.any_eq_true, List.mem_map, beq_iff_eq]

/-- The names of different languages are different, also in lower case. -/
theorem disjoint_callNames :
    ∀ first ∈ all, ∀ second ∈ all, ∀ name ∈ first.callNames, name ∈ second.callNames →
      first = second := by
  decide +kernel

/-- **No two languages answer to the same name.** -/
theorem eq_of_answersTo (calls : language.answersTo text = true)
    (callsOther : other.answersTo text = true) : language = other :=
  disjoint_callNames language language.mem_all other other.mem_all _ (answersTo_iff.mp calls)
    (answersTo_iff.mp callsOther)

/-- A search through all languages, in any order, finds the one that passes a test, if no two
do. -/
theorem find?_eq_some_iff {order : List Language} (complete : ∀ language, language ∈ order)
    {test : Language → Bool}
    (unique : ∀ first second, test first = true → test second = true → first = second) :
    order.find? test = some language ↔ test language = true := by
  constructor
  · exact List.find?_some
  · intro passes
    cases found : order.find? test with
    | none => exact absurd passes (List.find?_eq_none.mp found language (complete language))
    | some first => rw [unique first language (List.find?_some found) passes]

theorem find?_all_eq_some_iff {test : Language → Bool}
    (unique : ∀ first second, test first = true → test second = true → first = second) :
    all.find? test = some language ↔ test language = true :=
  find?_eq_some_iff mem_all unique

/-- **The first language that answers to a name is any language that answers to
it.** -/
theorem named?_eq_some_iff : named? text = some language ↔ language.answersTo text = true :=
  find?_all_eq_some_iff fun _ _ => eq_of_answersTo

theorem named?_eq_none_iff :
    named? text = none ↔ ∀ language : Language, language.answersTo text = false := by
  rw [named?, List.find?_eq_none]
  constructor
  · intro silent language
    exact Bool.eq_false_iff.mpr (silent language language.mem_all)
  · intro silent language _
    exact Bool.eq_false_iff.mp (silent language)

end Enclosure.Language
