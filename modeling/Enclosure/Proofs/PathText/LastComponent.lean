import Enclosure.PathText
import Mathlib.Data.List.Basic
import Mathlib.Data.List.TakeDrop
import Mathlib.Data.List.TakeWhile

/-!
# The file name and the extension of a path, read from the end

The extension of a path is defined by cutting the path into components and dropping
those that name no step. A person reads a path from its end: pass over trailing slashes
and trailing `/.`, and take what stands behind the last slash that is left
(`PathText.lastComponent`). The two ways agree on every text
(`PathText.fileName?_eq_some_iff`), and a directory in front does not change the file
name (`PathText.fileName?_append`).

They agree because a slash cuts a path into two paths whose components follow each other
(`PathText.components_append`), so a slash or `/.` at the end adds no component.
-/

set_option autoImplicit false

namespace Enclosure.PathText

/-! ## Cutting at a separator -/

variable {separator : Char} {name : List Char}

theorem splitAt_ne_nil (separator : Char) (text : List Char) : splitAt separator text ≠ [] := by
  cases text with
  | nil => simp [splitAt]
  | cons c rest =>
    unfold splitAt
    split
    · simp
    · split <;> simp

/-- A separator cuts a text into two texts whose pieces follow each other. -/
theorem splitAt_append_cons (separator : Char) (front back : List Char) :
    splitAt separator (front ++ separator :: back) =
      splitAt separator front ++ splitAt separator back := by
  induction front with
  | nil =>
    rw [List.nil_append, splitAt, splitAt]
    cases pieces : splitAt separator back with
    | nil => exact absurd pieces (splitAt_ne_nil separator back)
    | cons piece rest => simp
  | cons c front ih =>
    rw [List.cons_append, splitAt, splitAt, ih]
    cases pieces : splitAt separator front with
    | nil => exact absurd pieces (splitAt_ne_nil separator front)
    | cons piece rest =>
      simp only [List.cons_append]
      split <;> rfl

theorem splitAt_of_not_mem (absent : separator ∉ name) : splitAt separator name = [name] := by
  induction name with
  | nil => rfl
  | cons c name ih =>
    rw [List.mem_cons, not_or] at absent
    rw [splitAt, ih absent.2]
    exact if_neg (Ne.symm absent.1)

/-- What stands in front of the first separator does not hold one. -/
theorem not_mem_takeWhile_bne (separator : Char) (text : List Char) :
    separator ∉ text.takeWhile (· != separator) := by
  intro listed
  have passes := List.mem_takeWhile_imp listed
  simp at passes

/-! ## Components -/

/-- A slash joins the components of two paths. -/
theorem components_append (front back : List Char) :
    components (String.ofList (front ++ '/' :: back)) =
      components (String.ofList front) ++ components (String.ofList back) := by
  simp only [components, String.toList_ofList, splitAt_append_cons, List.map_append,
    List.filter_append]

/-- A text without slashes is one component, unless it names no step. -/
theorem components_of_not_mem {name : String} (noSlash : '/' ∉ name.toList) :
    components name = if name = "" ∨ name = "." then [] else [name] := by
  rw [components, splitAt_of_not_mem noSlash, List.map_singleton, String.ofList_toList]
  split_ifs with silent
  · rcases silent with rfl | rfl <;> decide
  · rw [not_or] at silent
    simp [silent]

/-! ## The last component -/

/-- Pass over slashes and `/.` at the end of a text, which is given from its end. -/
def trimEnd : List Char → List Char
  | '/' :: rest => trimEnd rest
  | '.' :: '/' :: rest => trimEnd rest
  | text => text

/-- The last component of a path: what stands behind the last slash when slashes and `/.`
at the end are dropped. -/
def lastComponent (path : String) : String :=
  String.ofList ((trimEnd path.toList.reverse).takeWhile (· != '/')).reverse

/-- What is passed over at the end of a path adds no component. -/
theorem components_trimEnd (reversed : List Char) :
    components (String.ofList (trimEnd reversed).reverse) =
      components (String.ofList reversed.reverse) := by
  fun_induction trimEnd reversed with
  | case1 rest ih =>
    have nothing : components (String.ofList []) = [] := by decide
    rw [ih, List.reverse_cons, components_append, nothing, List.append_nil]
  | case2 rest ih =>
    have nothing : components (String.ofList ['.']) = [] := by decide
    rw [ih, List.reverse_cons, List.reverse_cons, List.append_assoc, List.singleton_append,
      components_append, nothing, List.append_nil]
  | case3 => rfl

/-- Nothing is left to pass over. -/
theorem trimEnd_ne (reversed rest : List Char) :
    trimEnd reversed ≠ '/' :: rest ∧ trimEnd reversed ≠ '.' :: '/' :: rest := by
  fun_induction trimEnd reversed with
  | case1 _ ih => exact ih
  | case2 _ ih => exact ih
  | case3 text noSlash noStep => exact ⟨noSlash rest, noStep rest⟩

/-- A text ends in what stands behind its last slash. There are components in front of
it only if there is such a slash. -/
theorem exists_components_eq_append (reversed : List Char) :
    ∃ above, components (String.ofList reversed.reverse) =
        above ++ components (String.ofList (reversed.takeWhile (· != '/')).reverse) ∧
      (above = [] ∨ ∃ rest, reversed = reversed.takeWhile (· != '/') ++ '/' :: rest) := by
  have cut := List.takeWhile_append_dropWhile (p := (· != '/')) (l := reversed)
  have slash := List.head?_dropWhile_not (· != '/') reversed
  generalize reversed.takeWhile (· != '/') = name at cut ⊢
  generalize reversed.dropWhile (· != '/') = behind at cut slash
  subst cut
  cases behind with
  | nil => exact ⟨[], by rw [List.append_nil, List.nil_append], .inl rfl⟩
  | cons c rest =>
    obtain rfl : c = '/' := by simpa using slash
    refine ⟨components (String.ofList rest.reverse), ?_, .inr ⟨rest, rfl⟩⟩
    rw [List.reverse_append, List.reverse_cons, List.append_assoc, List.singleton_append,
      components_append]

/-- **The last of the components of a path is its last component**, unless that names no
step. -/
theorem getLast?_components (path : String) :
    (components path).getLast? =
      if lastComponent path = "" ∨ lastComponent path = "." then none
      else some (lastComponent path) := by
  have trimmed := components_trimEnd path.toList.reverse
  have left := trimEnd_ne path.toList.reverse
  rw [List.reverse_reverse, String.ofList_toList] at trimmed
  rw [← trimmed, lastComponent]
  generalize trimEnd path.toList.reverse = text at left
  obtain ⟨above, split, onlyBehindSlash⟩ := exists_components_eq_append text
  have noSlash := not_mem_takeWhile_bne '/' text
  rw [split, components_of_not_mem (by rwa [String.toList_ofList, List.mem_reverse])]
  split_ifs with silent
  · -- Behind a slash, an empty last component or `.` would have been passed over.
    rcases onlyBehindSlash with rfl | ⟨rest, cut⟩
    · rfl
    · rcases silent with empty | step
      · have name : (text.takeWhile (· != '/')).reverse = [] := by
          simpa using congrArg String.toList empty
        rw [List.reverse_eq_nil_iff.mp name] at cut
        exact absurd cut (left rest).1
      · have name : (text.takeWhile (· != '/')).reverse = ['.'] := by
          simpa using congrArg String.toList step
        rw [List.reverse_eq_iff.mp name] at cut
        exact absurd cut (left rest).2
  · exact List.getLast?_concat

/-! ## File names and extensions -/

theorem fileName?_eq_filter (path : String) :
    fileName? path = (components path).getLast?.filter (· != "..") := by
  rw [fileName?]
  cases (components path).getLast? with
  | none => rfl
  | some last =>
    by_cases up : last = ".."
    · subst up
      rfl
    · rw [Option.filter_some, if_pos (bne_iff_ne.mpr up)]
      split
      · rename_i same
        exact absurd (Option.some.inj same) up
      · rfl

/-- **The file name of a path is its last component**, unless that names no step or leads
back up. -/
theorem fileName?_eq_some_iff {path name : String} :
    fileName? path = some name ↔
      lastComponent path = name ∧ name ≠ "" ∧ name ≠ "." ∧ name ≠ ".." := by
  rw [fileName?_eq_filter, getLast?_components, Option.filter_eq_some_iff, bne_iff_ne]
  split_ifs with silent
  · constructor
    · rintro ⟨found, -⟩
      cases found
    · rintro ⟨rfl, notEmpty, notHere, -⟩
      exact absurd silent (not_or.mpr ⟨notEmpty, notHere⟩)
  · rw [not_or] at silent
    constructor
    · rintro ⟨found, notUp⟩
      cases found
      exact ⟨rfl, silent.1, silent.2, notUp⟩
    · rintro ⟨rfl, -, -, notUp⟩
      exact ⟨rfl, notUp⟩

/-- The extension of a file name is what stands behind its last dot, if something stands
in front of that dot. -/
theorem suffix?_eq_some_iff {name extension : String} :
    suffix? name = some extension ↔
      ∃ stem : String, stem ≠ "" ∧ '.' ∉ extension.toList ∧ name = stem ++ "." ++ extension := by
  rw [suffix?, List.span_eq_takeWhile_dropWhile]
  constructor
  · intro found
    have cut := List.takeWhile_append_dropWhile (p := (· != '.')) (l := name.toList.reverse)
    have dot := List.head?_dropWhile_not (· != '.') name.toList.reverse
    have noDot := not_mem_takeWhile_bne '.' name.toList.reverse
    generalize name.toList.reverse.takeWhile (· != '.') = behind at cut noDot found
    generalize name.toList.reverse.dropWhile (· != '.') = rest at cut dot found
    obtain _ | ⟨c, _ | ⟨last, front⟩⟩ := rest
    · cases found
    · cases found
    · obtain rfl : c = '.' := by simpa using dot
      cases found
      refine ⟨String.ofList (last :: front).reverse, by simp [← String.toList_inj], by simpa, ?_⟩
      have written := congrArg List.reverse cut
      rw [List.reverse_reverse] at written
      simp [← String.toList_inj, ← written]
  · rintro ⟨stem, notEmpty, noDot, rfl⟩
    have reversed : (stem ++ "." ++ extension).toList.reverse =
        extension.toList.reverse ++ '.' :: stem.toList.reverse := by simp
    have passes : ∀ c ∈ extension.toList.reverse, (c != '.') = true := by
      intro c listed
      rw [bne_iff_ne]
      rintro rfl
      exact noDot (List.mem_reverse.mp listed)
    rw [reversed, List.takeWhile_append_of_pos passes, List.dropWhile_append_of_pos passes]
    cases front : stem.toList.reverse with
    | nil =>
      rw [List.reverse_eq_nil_iff, String.toList_eq_nil_iff] at front
      exact absurd front notEmpty
    | cons last rest => simp

theorem extension?_eq_some_iff {path extension : String} :
    extension? path = some extension ↔
      lastComponent path ≠ ".." ∧ ∃ stem : String, stem ≠ "" ∧ '.' ∉ extension.toList ∧
        lastComponent path = stem ++ "." ++ extension := by
  rw [extension?, Option.bind_eq_some_iff]
  constructor
  · rintro ⟨name, isName, hasSuffix⟩
    obtain ⟨rfl, -, -, notUp⟩ := fileName?_eq_some_iff.mp isName
    exact ⟨notUp, suffix?_eq_some_iff.mp hasSuffix⟩
  · rintro ⟨notUp, hasSuffix⟩
    have found := suffix?_eq_some_iff.mpr hasSuffix
    refine ⟨lastComponent path, fileName?_eq_some_iff.mpr ⟨rfl, ?_, ?_, notUp⟩, found⟩
    · intro empty
      rw [empty] at found
      cases found
    · intro here
      rw [here] at found
      cases found

/-- **A directory in front of a file name does not change it.** -/
theorem fileName?_append (directory : String) {name : String} (notEmpty : name ≠ "")
    (noSlash : '/' ∉ name.toList) (notHere : name ≠ ".") :
    fileName? (directory ++ "/" ++ name) = fileName? name := by
  have own : components name = [name] := by
    rw [components_of_not_mem noSlash, if_neg (not_or.mpr ⟨notEmpty, notHere⟩)]
  have written : directory ++ "/" ++ name =
      String.ofList (directory.toList ++ '/' :: name.toList) := by simp [← String.toList_inj]
  have joined : components (directory ++ "/" ++ name) = components directory ++ [name] := by
    rw [written, components_append, String.ofList_toList, String.ofList_toList, own]
  rw [fileName?, fileName?, joined, own, List.getLast?_concat]
  rfl

end Enclosure.PathText
