import Enclosure.Catalog
import Enclosure.Proofs.Language.Naming
import Enclosure.Proofs.PathText.LastComponent

/-!
# The language that a path shows

The language of a file is found by its extension: the path is cut into components, the
last of them is cut at its last dot, and the languages are searched for what is behind
the dot. This module says for which paths the search finds which language, without
running it (`Language.ShownBy`, `Language.ofPath?_eq_some_iff`).

No extension belongs to two languages (`Language.eq_of_hasExtension`), so the order in
which the languages are searched does not matter, and no path shows two languages. An
extension has no dots, so that passing over leading dots, which the search allows for,
changes nothing here.
-/

set_option autoImplicit false

namespace Enclosure.Language

variable {text path : String} {language other : Language}

/-- The text is an extension of the files of a language, in upper or lower case. -/
def HasExtension (language : Language) (text : String) : Prop :=
  ∃ extension ∈ language.extensions, Text.sameLetters extension text = true

/-- **A path shows a language**: when slashes and `/.` at its end are dropped, its last
component is not `..` and consists of a stem, which is not empty, a dot, and an extension
of the language, in which there is no dot. -/
def ShownBy (language : Language) (path : String) : Prop :=
  PathText.lastComponent path ≠ ".." ∧
    ∃ stem extension : String,
      PathText.lastComponent path = stem ++ "." ++ extension ∧ stem ≠ "" ∧
      '.' ∉ extension.toList ∧ language.HasExtension extension

/-! ## Extensions -/

/-- The extensions of different languages are different, also in lower case. -/
theorem disjoint_extensions :
    ∀ first ∈ all, ∀ second ∈ all, ∀ extension ∈ first.extensions.map Text.lower,
      extension ∈ second.extensions.map Text.lower → first = second := by
  decide +kernel

theorem hasExtension_iff :
    language.HasExtension text ↔ Text.lower text ∈ language.extensions.map Text.lower := by
  simp only [HasExtension, Text.sameLetters, List.mem_map, beq_iff_eq]

/-- **No two languages have the same extension.** -/
theorem eq_of_hasExtension (has : language.HasExtension text) (hasToo : other.HasExtension text) :
    language = other :=
  disjoint_extensions language language.mem_all other other.mem_all _ (hasExtension_iff.mp has)
    (hasExtension_iff.mp hasToo)

theorem any_extensions_iff :
    (language.extensions.any fun extension => Text.sameLetters extension text) = true ↔
      language.HasExtension text := List.any_eq_true

/-- An extension without dots is looked up as it is. -/
theorem ofExtension?_eq_some_iff (noDot : '.' ∉ text.toList) :
    ofExtension? text = some language ↔ language.HasExtension text := by
  have bare : text.toList.dropWhile (· == '.') = text.toList := by
    refine List.dropWhile_eq_self_iff.mpr fun notEmpty isDot => noDot ?_
    rw [← beq_iff_eq.mp isDot]
    exact List.getElem_mem notEmpty
  simp only [ofExtension?, bare, String.ofList_toList]
  rw [find?_all_eq_some_iff, any_extensions_iff]
  intro first second has hasToo
  exact eq_of_hasExtension (any_extensions_iff.mp has) (any_extensions_iff.mp hasToo)

/-! ## Paths -/

/-- **A path is taken for the language that it shows.** -/
theorem ofPath?_eq_some_iff : ofPath? path = some language ↔ language.ShownBy path := by
  rw [ofPath?, Option.bind_eq_some_iff]
  constructor
  · rintro ⟨extension, found, looked⟩
    obtain ⟨notUp, stem, notEmpty, noDot, written⟩ := PathText.extension?_eq_some_iff.mp found
    exact ⟨notUp, stem, extension, written, notEmpty, noDot,
      (ofExtension?_eq_some_iff noDot).mp looked⟩
  · rintro ⟨notUp, stem, extension, written, notEmpty, noDot, has⟩
    exact ⟨extension, PathText.extension?_eq_some_iff.mpr ⟨notUp, stem, notEmpty, noDot, written⟩,
      (ofExtension?_eq_some_iff noDot).mpr has⟩

theorem ofPath?_eq_none_iff :
    ofPath? path = none ↔ ∀ language : Language, ¬ language.ShownBy path := by
  simp only [← ofPath?_eq_some_iff, Option.eq_none_iff_forall_ne_some, ne_eq]

/-- The directory of a file has no part in its language. -/
theorem ofPath?_append (directory : String) {name : String} (notEmpty : name ≠ "")
    (noSlash : '/' ∉ name.toList) (notHere : name ≠ ".") :
    ofPath? (directory ++ "/" ++ name) = ofPath? name := by
  rw [ofPath?, ofPath?, PathText.extension?, PathText.extension?,
    PathText.fileName?_append directory notEmpty noSlash notHere]

/-- **The language of a file follows from the last component of its path.**

* A path is taken for a language exactly when it shows the language.
* No path shows two languages.
* A directory in front of a file name changes nothing.
* An analyzer is made for a path exactly when the path shows a language. It is the analyzer
  of this language, and nothing is logged; otherwise one line says that there is none. -/
theorem ofPath?_follows_last_component :
    (∀ (path : String) (language : Language),
      ofPath? path = some language ↔ language.ShownBy path) ∧
    (∀ (path : String) (language other : Language), language.ShownBy path → other.ShownBy path →
      language = other) ∧
    (∀ directory name : String, name ≠ "" → '/' ∉ name.toList → name ≠ "." → name ≠ ".." →
      ofPath? (directory ++ "/" ++ name) = ofPath? name) ∧
    ∀ (parsers : Parsers) (settings : Settings) (path : String),
      let made := parsers.analyzerForPath settings path
      (∀ language : Language, language.ShownBy path →
        made.value = some (parsers.analyzer settings language) ∧
        (parsers.analyzer settings language).grammar.language = language.name ∧ made.log = []) ∧
      ((∀ language : Language, ¬ language.ShownBy path) →
        made.value = none ∧
        made.log = [⟨.debug, .catalog, "No grammar available for file: " ++ path⟩]) := by
  refine ⟨fun path language => ofPath?_eq_some_iff, ?_, ?_, ?_⟩
  · intro path language other shows showsToo
    rw [← ofPath?_eq_some_iff] at shows showsToo
    exact Option.some.inj (shows.symm.trans showsToo)
  · intro directory name notEmpty noSlash notHere _
    exact ofPath?_append directory notEmpty noSlash notHere
  · intro parsers settings path made
    refine ⟨?_, ?_⟩
    · intro language shows
      have found : made = { value := some (parsers.analyzer settings language) } := by
        simp only [made, Parsers.analyzerForPath, ofPath?_eq_some_iff.mpr shows]
      rw [found]
      exact ⟨rfl, rfl, rfl⟩
    · intro silent
      have unknown : made = {
          value := none
          log := [⟨.debug, .catalog, "No grammar available for file: " ++ path⟩] } := by
        simp only [made, Parsers.analyzerForPath, ofPath?_eq_none_iff.mpr silent]
        rfl
      rw [unknown]
      exact ⟨rfl, rfl⟩

/-- A hidden directory, a file name with two dots and an extension in upper case, behind
which `/./` is dropped. The path shows Python, as does the file name without the directory,
and the path of a hidden file without a stem shows nothing. -/
theorem ofPath?_follows_last_component_of_hidden_directory :
    let parsers : Parsers := fun _ _ => .ok none
    let path := "src/.cache/main.test.PY/./"
    ofPath? path = some .python ∧ ofPath? ("a/../b" ++ "/" ++ "main.test.PY") = some .python ∧
      (parsers.analyzerForPath {} path).value = some (parsers.analyzer {} .python) ∧
      (parsers.analyzerForPath {} "src/.py").log =
        [⟨.debug, .catalog, "No grammar available for file: src/.py"⟩] := by
  intro parsers path
  obtain ⟨shown, -, elsewhere, made⟩ := ofPath?_follows_last_component
  have lastComponent : PathText.lastComponent path = "main.test" ++ "." ++ "PY" := by
    decide +kernel
  have shows : python.ShownBy path :=
    ⟨by decide +kernel, "main.test", "PY", lastComponent, by decide, by decide, "py", by decide,
      by decide +kernel⟩
  refine ⟨(shown path .python).mpr shows, ?_, ((made parsers {} path).1 .python shows).1, ?_⟩
  · rw [elsewhere "a/../b" "main.test.PY" (by decide) (by decide) (by decide) (by decide)]
    decide +kernel
  · refine ((made parsers {} "src/.py").2 fun language shows => ?_).2
    have none : ofPath? "src/.py" = none := by decide +kernel
    exact ofPath?_eq_none_iff.mp none language shows

end Enclosure.Language
