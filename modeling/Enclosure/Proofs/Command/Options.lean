import Enclosure.Command.Arguments
import Mathlib.Data.List.Nodup
import Mathlib.Data.List.TakeDrop

/-!
# What is read from arguments

Whoever uses the values that were read relies on an invariant of the reader: a
value stands only under the name of an option that accepts it (`Rules.Admits`).
Each way of adding something to what is given keeps the invariant, and so does the
reading of any number of words (`Rules.Admits.readAll`).

In the other direction, an option can always be written as one word, with its
value behind an equals sign, whatever characters the value has
(`Word.ofText_attachedWord`). Such words are read one after another and give what
was written (`Rules.readUntilPlain_attachedWords`).
-/

set_option autoImplicit false

namespace Enclosure.Command

/-- Steps that end well began well. -/
theorem exists_of_bind_eq_ok {α β : Type} {first : Except Halt α} {next : α → Except Halt β}
    {result : β} (done : (first >>= next) = .ok result) :
    ∃ value, first = .ok value ∧ next value = .ok result := by
  cases first with
  | error halt => cases done
  | ok value => exact ⟨value, rfl, done⟩

namespace Rules

/-- Every value that is given stands under the name of an option that accepts
it. -/
def Admits (rules : Rules) (given : Given) : Prop :=
  ∀ name text, given.value? name = some text →
    ∃ rule ∈ rules.options, rule.name = name ∧ rule.accepts text = true

variable {rules : Rules} {given more : Given}

theorem admits_empty : rules.Admits {} := by
  intro name text stands
  cases stands

namespace Admits

theorem addFlag {name : String} (admits : rules.Admits given)
    (added : given.addFlag name = .ok more) : rules.Admits more := by
  unfold Given.addFlag at added
  split at added
  · cases added
  · cases added
    exact admits

theorem addFile {name : String} (admits : rules.Admits given)
    (added : given.addFile name = .ok more) : rules.Admits more := by
  unfold Given.addFile at added
  split at added
  · cases added
  · cases added
    exact admits

theorem addValue {rule : OptionRule} {text : String} (admits : rules.Admits given)
    (member : rule ∈ rules.options) (added : given.addValue rule text = .ok more) :
    rules.Admits more := by
  unfold Given.addValue at added
  split at added
  · rename_i accepted
    cases added
    intro name value stands
    rw [Given.value?, List.lookup_cons] at stands
    split at stands
    · rename_i same
      cases stands
      exact ⟨rule, member, (eq_of_beq same).symm, (Bool.and_eq_true_iff.mp accepted).1⟩
    · exact admits name value stands
  · cases added

theorem readCluster {letters : List Char} (admits : rules.Admits given)
    (read : rules.readCluster given letters = .ok more) : rules.Admits more := by
  induction letters generalizing given with
  | nil =>
    cases read
    exact admits
  | cons letter letters ih =>
    unfold Rules.readCluster at read
    split at read
    · cases read
    · split at read
      · cases read
      · split at read
        · cases read
        · obtain ⟨added, adding, rest⟩ := exists_of_bind_eq_ok read
          exact ih (admits.addFlag adding) rest

/-- A name gives something that keeps to the rules, or is that of one of their
options. -/
theorem readLong {name : String} {attached : Option String} {result : Given ⊕ OptionRule}
    (admits : rules.Admits given) (read : rules.readLong given name attached = .ok result) :
    (∀ more, result = .inl more → rules.Admits more) ∧
      ∀ rule, result = .inr rule → rule ∈ rules.options := by
  unfold Rules.readLong at read
  split at read
  · rename_i rule value found
    obtain ⟨added, adding, rest⟩ := exists_of_bind_eq_ok read
    cases rest
    refine ⟨?_, fun _ other => (nomatch other)⟩
    rintro more ⟨⟩
    exact admits.addValue (List.mem_of_find?_eq_some found) adding
  · rename_i rule found
    cases read
    refine ⟨fun _ other => (nomatch other), ?_⟩
    rintro rule ⟨⟩
    exact List.mem_of_find?_eq_some found
  · cases read
  · split at read
    · cases read
    · split at read
      · cases read
      · split at read
        · obtain ⟨added, adding, rest⟩ := exists_of_bind_eq_ok read
          cases rest
          refine ⟨?_, fun _ other => (nomatch other)⟩
          rintro more ⟨⟩
          exact admits.addFlag adding
        · cases read

theorem readUntilPlain {given more : Given} {words rest : List String}
    (admits : rules.Admits given)
    (read : rules.readUntilPlain given words = .ok (more, rest)) : rules.Admits more := by
  -- An option may take the word after its own, so the recursion is on the length.
  match words with
  | [] =>
    cases read
    exact admits
  | word :: later =>
    unfold Rules.readUntilPlain at read
    split at read
    · cases read
      exact admits
    · cases read
      exact admits
    · obtain ⟨further, cluster, read⟩ := exists_of_bind_eq_ok read
      exact readUntilPlain (admits.readCluster cluster) read
    · obtain ⟨result, long, read⟩ := exists_of_bind_eq_ok read
      obtain ⟨finished, waiting⟩ := admits.readLong long
      cases result with
      | inl further => exact readUntilPlain (finished further rfl) read
      | inr rule =>
        cases later with
        | nil => cases read
        | cons value latest =>
          dsimp only at read
          split at read
          · obtain ⟨further, adding, read⟩ := exists_of_bind_eq_ok read
            exact readUntilPlain (admits.addValue (waiting rule rfl) adding) read
          · cases read
termination_by words.length

theorem readFiles {words : List String} (admits : rules.Admits given)
    (read : Command.readFiles given words = .ok more) : rules.Admits more := by
  induction words generalizing given with
  | nil =>
    cases read
    exact admits
  | cons word words ih =>
    obtain ⟨added, adding, read⟩ := exists_of_bind_eq_ok read
    exact ih (admits.addFile adding) read

/-- **Whatever words are read, every value they give is accepted** by the option
of its name. -/
theorem readAll {fuel : Nat} {words : List String} (admits : rules.Admits given)
    (read : rules.readAll fuel given words = .ok more) : rules.Admits more := by
  induction fuel generalizing given words with
  | zero => exact admits.readFiles read
  | succ fuel ih =>
    obtain ⟨⟨further, rest⟩, stretch, read⟩ := exists_of_bind_eq_ok read
    have kept := admits.readUntilPlain stretch
    split at read
    · rename_i same
      cases same
      cases read
      exact kept
    · rename_i same
      cases same
      exact kept.readFiles read
    · rename_i same
      cases same
      obtain ⟨added, adding, read⟩ := exists_of_bind_eq_ok read
      exact ih (kept.addFile adding) read

/-- Where options differ in name, the value under the name of one was accepted by
this one. -/
theorem accepts {rule : OptionRule} {text : String} (admits : rules.Admits given)
    (distinct : (rules.options.map (·.name)).Nodup) (member : rule ∈ rules.options)
    (stands : given.value? rule.name = some text) : rule.accepts text = true := by
  obtain ⟨other, otherMember, sameName, accepted⟩ := admits rule.name text stands
  rwa [← List.inj_on_of_nodup_map distinct otherMember member sameName]

end Admits

end Rules

/-! ## Commands -/

/-- What is read of a command is the invocation that its words give. -/
theorem Rules.exists_of_command {rules : Rules} {general : Given} {words : List String}
    {action : Given → Option Action} {invocation : Invocation}
    (read : rules.command general words action = .ok (.run invocation)) :
    ∃ own, rules.readAll words.length {} words = .ok own ∧
      (action own).bind (general.invocation? own) = some invocation := by
  obtain ⟨own, after, read⟩ := exists_of_bind_eq_ok read
  refine ⟨own, after, ?_⟩
  split at read
  · rename_i made found
    cases read
    exact found
  · cases read

/-! ## Options with their values attached -/

/-- An option and its value, written as one word. -/
def attachedWord (given : String × String) : String := "--" ++ given.1 ++ "=" ++ given.2

theorem Word.ofText_attachedWord {name text : String} (bare : '=' ∉ name.toList) :
    Word.ofText (attachedWord (name, text)) = .long name (some text) := by
  have chars : (attachedWord (name, text)).toList =
      '-' :: '-' :: (name.toList ++ '=' :: text.toList) := by
    simp [attachedWord]
  have cut : (name.toList ++ '=' :: text.toList).span (· != '=') =
      (name.toList, '=' :: text.toList) := by
    have before : ∀ c ∈ name.toList, (c != '=') = true := by
      intro c member
      exact bne_iff_ne.mpr fun same => bare (same ▸ member)
    rw [List.span_eq_takeWhile_dropWhile, List.takeWhile_append_of_pos before,
      List.dropWhile_append_of_pos before]
    simp
  -- Something follows the two dashes, so they are not the divider.
  obtain ⟨head, tail, longer⟩ := List.exists_cons_of_ne_nil
    (show name.toList ++ '=' :: text.toList ≠ [] by simp)
  rw [longer] at chars cut
  simp only [Word.ofText, chars, cut, String.ofList_toList]

namespace Rules

variable {rules : Rules}

/-- Pairs of names and values that the rules allow: under each name stands an
option that accepts the value. -/
def Allows (rules : Rules) (pairs : List (String × String)) : Prop :=
  ∀ pair ∈ pairs, ∃ rule, rules.options.find? (·.name == pair.1) = some rule ∧
    rule.accepts pair.2 = true

/-- An option with its value attached is read in one step. -/
theorem readUntilPlain_attachedWord {given : Given} {pair : String × String} {rule : OptionRule}
    (bare : '=' ∉ pair.1.toList) (found : rules.options.find? (·.name == pair.1) = some rule)
    (accepted : rule.accepts pair.2 = true) (fresh : pair.1 ∉ given.values.map (·.1))
    (rest : List String) :
    rules.readUntilPlain given (attachedWord pair :: rest) =
      rules.readUntilPlain { given with values := pair :: given.values } rest := by
  obtain ⟨name, text⟩ := pair
  have same : rule.name = name := by
    have called := List.find?_some found
    exact eq_of_beq called
  have missing : given.values.lookup rule.name = none := by
    rw [same, List.lookup_eq_none_iff]
    intro other member
    refine bne_iff_ne.mpr fun equal => fresh ?_
    exact List.mem_map.mpr ⟨other, member, equal.symm⟩
  have added : given.addValue rule text =
      .ok { given with values := (name, text) :: given.values } := by
    rw [Given.addValue, accepted, missing, same]
    rfl
  have read : rules.readLong given name (some text) =
      .ok (.inl { given with values := (name, text) :: given.values }) := by
    simp only [readLong, found, added]
    rfl
  rw [readUntilPlain, Word.ofText_attachedWord bare]
  dsimp only
  rw [read]
  rfl

/-- **Attached options are read one after another**, so that the last one comes
first in what is given. -/
theorem readUntilPlain_attachedWords {pairs : List (String × String)} {given : Given}
    (bare : ∀ pair ∈ pairs, '=' ∉ pair.1.toList) (allowed : rules.Allows pairs)
    (fresh : ((pairs.reverse ++ given.values).map (·.1)).Nodup) (rest : List String) :
    rules.readUntilPlain given (pairs.map attachedWord ++ rest) =
      rules.readUntilPlain { given with values := pairs.reverse ++ given.values } rest := by
  induction pairs generalizing given with
  | nil => rfl
  | cons pair pairs ih =>
    obtain ⟨rule, found, accepted⟩ := allowed pair List.mem_cons_self
    have rearranged : (pair :: pairs).reverse ++ given.values =
        pairs.reverse ++ pair :: given.values := by
      rw [List.reverse_cons, List.append_assoc, List.singleton_append]
    rw [rearranged] at fresh ⊢
    have absent : pair.1 ∉ given.values.map (·.1) := by
      rw [List.map_append, List.map_cons] at fresh
      exact (List.nodup_cons.mp (List.nodup_append.mp fresh).2.1).1
    rw [List.map_cons, List.cons_append,
      readUntilPlain_attachedWord (bare pair List.mem_cons_self) found accepted absent]
    exact ih (fun other member => bare other (List.mem_cons_of_mem _ member))
      (fun other member => allowed other (List.mem_cons_of_mem _ member)) fresh

end Rules

end Enclosure.Command
