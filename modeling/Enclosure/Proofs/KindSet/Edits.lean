import Enclosure.Codec
import Enclosure.Proofs.KindSet.Members
import Enclosure.Proofs.Text.ByteOrder
import Mathlib.Data.Finset.Card

/-!
# A set of kinds through its changes

A set of kinds starts out as the standard one. Afterwards it can be set back to that, be
replaced by the set of a list, or take in a list on top of what it has. What it holds after
any number of such changes depends on a few of them: going back from the last change, the
lists taken in, up to and including the list of the nearest replacement
(`KindSet.listsBack`).

The order and the grouping of these lists leave no trace. Taking in several lists one after
another is taking in one long list (`KindSet.editAll_map_extend`), of a list only the members
matter (`KindSet.extend_eq_of_mem_iff`), and a set is determined by its members because it is
kept as an ascending list, in the order of the bytes of the kinds.
-/

set_option autoImplicit false

namespace Enclosure.KindSet

/-- A change to a set of kinds. -/
inductive Edit where
  /-- Go back to the standard kinds. -/
  | reset
  /-- Take the kinds of a list instead. -/
  | collect (kinds : List String)
  /-- Take in the kinds of a list as well. -/
  | extend (kinds : List String)

/-- The set after a change. -/
def edit (set : KindSet) : Edit → KindSet
  | .reset => standard
  | .collect kinds => ofList kinds
  | .extend kinds => set.extend kinds

/-- The set after several changes. -/
def editAll (set : KindSet) (edits : List Edit) : KindSet := edits.foldl edit set

/-- The set after several changes, the first of which is made to the standard set. -/
def afterEdits (edits : List Edit) : KindSet := standard.editAll edits

/-- The lists that count after several changes, which are given with the last one first: the
lists taken in since the last replacement, and the list that this put in place. Without a
replacement the standard kinds were there from the start. -/
def listsBack : List Edit → List (List String)
  | [] => [standard.kinds]
  | .reset :: _ => [standard.kinds]
  | .collect kinds :: _ => [kinds]
  | .extend kinds :: earlier => kinds :: listsBack earlier

/-- The kinds of the lists that count after several changes. -/
def kindsThatCount (edits : List Edit) : List String := (listsBack edits.reverse).flatten

variable {set other : KindSet} {kinds others : List String} {kind : String} {edits : List Edit}

/-! ## What the changes leave -/

theorem editAll_append (set : KindSet) (edits later : List Edit) :
    set.editAll (edits ++ later) = (set.editAll edits).editAll later :=
  List.foldl_append

/-- One more change keeps the set in step with the lists that count. -/
theorem mem_edit_iff (holds : kind ∈ set.kinds ↔ kind ∈ kindsThatCount edits) (change : Edit) :
    kind ∈ (set.edit change).kinds ↔ kind ∈ kindsThatCount (edits ++ [change]) := by
  rw [kindsThatCount, List.reverse_append, List.reverse_singleton, List.singleton_append]
  cases change with
  | reset => simp [edit, listsBack]
  | collect kinds => simp [edit, listsBack, mem_ofList]
  | extend kinds =>
    rw [edit, mem_extend, holds, listsBack, List.flatten_cons, List.mem_append, kindsThatCount]
    exact or_comm

/-- **The members after any changes are the kinds of the lists that count.** -/
theorem mem_afterEdits : kind ∈ (afterEdits edits).kinds ↔ kind ∈ kindsThatCount edits := by
  induction edits using List.reverseRecOn with
  | nil => simp [afterEdits, editAll, kindsThatCount, listsBack]
  | append_singleton edits change ih =>
    rw [afterEdits, editAll_append]
    exact mem_edit_iff ih change

theorem contains_afterEdits :
    (afterEdits edits).contains kind = true ↔ kind ∈ kindsThatCount edits :=
  contains_iff_mem.trans mem_afterEdits

theorem size_afterEdits (edits : List Edit) :
    (afterEdits edits).size = (kindsThatCount edits).toFinset.card := by
  have same : (afterEdits edits).kinds.toFinset = (kindsThatCount edits).toFinset := by
    ext kind
    rw [List.mem_toFinset, List.mem_toFinset, mem_afterEdits]
  rw [← same, List.toFinset_card_of_nodup (nodup_kinds _), size]

/-! ## What determines a set -/

theorem pairwise_before_kinds (set : KindSet) : set.kinds.Pairwise Text.Before :=
  set.ordered.imp Text.before_iff_lt.mpr

/-- Sets are equal exactly when they contain the same kinds. -/
theorem eq_iff_contains : set = other ↔ ∀ kind, set.contains kind = other.contains kind := by
  constructor
  · rintro rfl kind
    rfl
  · intro same
    refine eq_of_mem_iff fun kind => ?_
    rw [← contains_iff_mem, ← contains_iff_mem, same]

theorem toValue_eq_iff : set.toValue = other.toValue ↔ set = other := by
  constructor
  · intro same
    have texts : set.kinds.map Value.text = other.kinds.map Value.text := Value.list.inj same
    have kinds : set.kinds = other.kinds :=
      List.map_injective_iff.mpr (fun _ _ => Value.text.inj) texts
    exact eq_of_mem_iff fun kind => by rw [kinds]
  · rintro rfl
    rfl

/-- Of a list that is taken in only its members matter. -/
theorem extend_eq_of_mem_iff (set : KindSet) (same : ∀ kind, kind ∈ kinds ↔ kind ∈ others) :
    set.extend kinds = set.extend others := by
  refine eq_of_mem_iff fun kind => ?_
  rw [mem_extend, mem_extend, same]

theorem extend_append (set : KindSet) (kinds others : List String) :
    set.extend (kinds ++ others) = (set.extend kinds).extend others :=
  List.foldl_append

/-- Lists that are taken in one after another are taken in as one list. -/
theorem editAll_map_extend (set : KindSet) (lists : List (List String)) :
    set.editAll (lists.map .extend) = set.extend lists.flatten := by
  induction lists generalizing set with
  | nil => rfl
  | cons kinds lists ih =>
    rw [List.flatten_cons, extend_append]
    exact ih (set.extend kinds)

/-- A list that replaces everything and the lists after it are collected as one list. -/
theorem editAll_collect (set : KindSet) (kinds : List String) (lists : List (List String)) :
    set.editAll (.collect kinds :: lists.map .extend) = ofList (kinds :: lists).flatten := by
  rw [List.flatten_cons, ofList, extend_append]
  exact editAll_map_extend (ofList kinds) lists

/-- **A set is its members, whatever changes it went through.**

* After any changes to the standard set, its kinds ascend strictly in the order of their
  bytes, so that none is there twice. It contains the kinds of the lists that count, and its
  size is the number of different kinds among them.
* Two sets that came out of changes are equal exactly when they contain the same kinds, and
  so are the lists that are written of them.
* Whatever is done before and afterwards, the lists that are taken in between can be
  permuted, repeated and grouped in another way, as long as the kinds in them stay the same;
  and so can the list that replaces everything together with those taken in after it. -/
theorem afterEdits_determined_by_members :
    (∀ edits : List Edit,
      (afterEdits edits).kinds.Pairwise Text.Before ∧ (afterEdits edits).kinds.Nodup ∧
      (∀ kind, (afterEdits edits).contains kind = true ↔ kind ∈ kindsThatCount edits) ∧
      (afterEdits edits).size = (kindsThatCount edits).toFinset.card) ∧
    (∀ edits others : List Edit,
      (afterEdits edits = afterEdits others ↔
        ∀ kind, (afterEdits edits).contains kind = (afterEdits others).contains kind) ∧
      ((afterEdits edits).toValue = (afterEdits others).toValue ↔
        ∀ kind, (afterEdits edits).contains kind = (afterEdits others).contains kind)) ∧
    (∀ (before after : List Edit) (lists others : List (List String)),
      (∀ kind, kind ∈ lists.flatten ↔ kind ∈ others.flatten) →
      afterEdits (before ++ lists.map .extend ++ after) =
        afterEdits (before ++ others.map .extend ++ after)) ∧
    ∀ (before after : List Edit) (kinds otherKinds : List String)
      (lists others : List (List String)),
      (∀ kind, kind ∈ (kinds :: lists).flatten ↔ kind ∈ (otherKinds :: others).flatten) →
      afterEdits (before ++ .collect kinds :: lists.map .extend ++ after) =
        afterEdits (before ++ .collect otherKinds :: others.map .extend ++ after) := by
  refine ⟨?_, ?_, ?_, ?_⟩
  · intro edits
    exact ⟨pairwise_before_kinds _, nodup_kinds _, fun kind => contains_afterEdits,
      size_afterEdits edits⟩
  · intro edits others
    exact ⟨eq_iff_contains, toValue_eq_iff.trans eq_iff_contains⟩
  · intro before after lists others same
    have between : ∀ set : KindSet,
        set.editAll (lists.map .extend) = set.editAll (others.map .extend) := by
      intro set
      rw [editAll_map_extend, editAll_map_extend]
      exact extend_eq_of_mem_iff set same
    simp only [afterEdits, editAll_append, between]
  · intro before after kinds otherKinds lists others same
    have between : ∀ set : KindSet,
        set.editAll (.collect kinds :: lists.map .extend) =
          set.editAll (.collect otherKinds :: others.map .extend) := by
      intro set
      rw [editAll_collect, editAll_collect]
      exact extend_eq_of_mem_iff empty same
    simp only [afterEdits, editAll_append, between]

/-- A list that replaces the standard kinds, and two that are taken in; the same kinds in other
lists; and the three kinds that the set then has. The last two are in the order of their bytes,
which is not that of their 16-bit units. -/
theorem afterEdits_determined_by_members_of_three_kinds :
    let edits : List Edit := [.collect ["～", "a", "a"], .extend [], .extend ["𝄞"]]
    let others : List Edit := [.collect ["𝄞"], .extend ["a", "～"], .extend ["a"]]
    afterEdits ([.extend ["x"]] ++ edits ++ [.extend ["～"]]) =
        afterEdits ([.extend ["x"]] ++ others ++ [.extend ["～"]]) ∧
      (afterEdits edits).contains "function_definition" = false ∧
      (afterEdits []).contains "function_definition" = true ∧
      (afterEdits edits).size = 3 ∧ (afterEdits edits).kinds = ["a", "～", "𝄞"] := by
  intro edits others
  obtain ⟨members, -, -, regrouped⟩ := afterEdits_determined_by_members
  refine ⟨?_, ?_, ?_, ?_, by decide⟩
  · refine regrouped [.extend ["x"]] [.extend ["～"]] ["～", "a", "a"] ["𝄞"] [[], ["𝄞"]]
      [["a", "～"], ["a"]] fun kind => ?_
    simp only [List.flatten_cons, List.flatten_nil, List.mem_append, List.mem_cons,
      List.not_mem_nil]
    tauto
  · exact Bool.eq_false_iff.mpr fun contains =>
      absurd (((members edits).2.2.1 "function_definition").mp contains) (by decide)
  · exact ((members []).2.2.1 "function_definition").mpr (by decide)
  · exact (members edits).2.2.2.trans (by decide)

end Enclosure.KindSet
