import Enclosure.Proofs.Codec.RoundTrip
import Enclosure.Proofs.Command.Options

/-!
# The lookups that arguments can ask for

The words after `find` name a file and a first line, and may give a last line, a
language, a policy, a format and a settings path. `Lookup` holds what they say
before anything is filled in, and `Lookup.invocation` fills in what is left out.

Arguments that ask to find something ask for a lookup (`Lookup.exists_askedBy`),
because what was read of a number or of a name is a number or a name. In turn,
every lookup whose paths are not empty can be asked for: its words are read as the
lookup they were written from (`Lookup.askedBy_written`).
-/

set_option autoImplicit false

namespace Enclosure.Command

/-! ## The options of a lookup -/

/-- What a lookup can be asked with. What is optional may be left out. -/
structure Lookup where
  verbose : Bool
  settingsPath : Option String
  file : String
  language : Option String
  format : Option Format
  first : UInt64
  last : Option UInt64
  policy : Option Policy

/-- The name of a format. -/
def Format.name : Format → String
  | json => "json"
  | yaml => "yaml"

theorem Format.ofName?_name (format : Format) : ofName? format.name = some format := by
  cases format <;> rfl

theorem lineNumber?_toString (line : UInt64) : lineNumber? (toString line) = some line := by
  have chars : (toString line).toList = Nat.toDigits 10 line.toNat := by
    simp [toString]
  have digits : ∀ c ∈ Nat.toDigits 10 line.toNat, c.isDigit = true :=
    fun c => Nat.isDigit_of_mem_toDigits (by decide) (by decide)
  have all : (Nat.toDigits 10 line.toNat).all Char.isDigit = true := List.all_eq_true.mpr digits
  have small : line.toNat < UInt64.size := line.toNat_lt
  unfold lineNumber?
  rw [chars]
  split
  · rename_i signed
    have digit := digits '+' (signed ▸ List.mem_cons_self)
    contradiction
  · simp [all, Text.decimalValue_toDigits, small]

namespace Lookup

/-- The invocation that a lookup stands for: the format is JSON and the last line
is the first one unless they are given. -/
def invocation (lookup : Lookup) : Invocation where
  verbose := lookup.verbose
  settingsPath := lookup.settingsPath
  file := lookup.file
  language := lookup.language
  format := lookup.format.getD .json
  action := .find lookup.first (lookup.last.getD lookup.first) lookup.policy

/-- The lookup has what two stretches of arguments give, read as what it is. -/
structure GivenBy (lookup : Lookup) (general own : Given) : Prop where
  verbose : (general.flag "verbose" || own.flag "verbose") = lookup.verbose
  settingsPath : (own.value? "config" <|> general.value? "config") = lookup.settingsPath
  file : own.file = some lookup.file
  language : own.value? "language" = lookup.language
  format : (own.value? "format").map Format.ofName? = lookup.format.map some
  first : (own.value? "start").map lineNumber? = some (some lookup.first)
  last : (own.value? "end").map lineNumber? = lookup.last.map some
  policy : (own.value? "policy").map Policy.ofName? = lookup.policy.map some

/-- **The words ask for the lookup**: they are read to their end, and give what
the lookup has. -/
def AskedBy (lookup : Lookup) (words : List String) : Prop :=
  ∃ general own rest,
    generalRules.readUntilPlain {} words = .ok (general, "find" :: rest) ∧
      findRules.readAll rest.length {} rest = .ok own ∧ lookup.GivenBy general own

theorem bind_eq_of_map_eq {α β : Type} {read : α → Option β} {text : Option α} {value : Option β}
    (same : text.map read = value.map some) : text.bind read = value := by
  cases text <;> cases value <;> simp_all

theorem map_eq_of_readable {α β : Type} {read : α → Option β} {text : Option α}
    (readable : ∀ content, text = some content → (read content).isSome = true) :
    text.map read = (text.bind read).map some := by
  cases text with
  | none => rfl
  | some content =>
    obtain ⟨value, reads⟩ := Option.isSome_iff_exists.mp (readable content rfl)
    simp [reads]

variable {lookup : Lookup} {general own : Given} {words : List String}

theorem GivenBy.invocation? (given : lookup.GivenBy general own) :
    own.findAction?.bind (general.invocation? own) = some lookup.invocation := by
  have first : (own.value? "start").bind lineNumber? = some lookup.first :=
    bind_eq_of_map_eq given.first
  have action : own.findAction? = some lookup.invocation.action := by
    simp only [Given.findAction?, first, bind_eq_of_map_eq given.last,
      bind_eq_of_map_eq given.policy]
    rfl
  have whole : general.invocation? own lookup.invocation.action = some lookup.invocation := by
    simp only [Given.invocation?, given.verbose, given.settingsPath, given.file, given.language,
      bind_eq_of_map_eq given.format]
    rfl
  rw [action]
  exact whole

/-- Words that ask for a lookup ask for its invocation. -/
theorem AskedBy.ofArguments (asked : lookup.AskedBy words) :
    Request.ofArguments words = .run lookup.invocation := by
  obtain ⟨general, own, rest, before, after, given⟩ := asked
  have command : findRules.command general rest Given.findAction? =
      .ok (.run lookup.invocation) := by
    simp only [Rules.command, after, bind, Except.bind, given.invocation?]
    rfl
  simp only [Request.ofArguments, readRequest, before, bind, Except.bind, command]

/-- Stretches that give an invocation give a lookup. -/
theorem exists_givenBy (admits : findRules.Admits own) {invocation : Invocation}
    (made : own.findAction?.bind (general.invocation? own) = some invocation) :
    ∃ lookup : Lookup, lookup.GivenBy general own ∧ lookup.invocation = invocation := by
  obtain ⟨action, acts, whole⟩ := Option.bind_eq_some_iff.mp made
  obtain ⟨first, starts, ends⟩ := Option.bind_eq_some_iff.mp acts
  obtain ⟨file, named, rest⟩ := Option.bind_eq_some_iff.mp whole
  cases ends
  cases rest
  have distinct : (findRules.options.map (·.name)).Nodup := by decide +kernel
  have readable : ∀ rule ∈ findRules.options, ∀ text, own.value? rule.name = some text →
      rule.accepts text = true := fun rule member text => admits.accepts distinct member
  simp only [findRules, List.forall_mem_cons] at readable
  obtain ⟨-, -, format, start, stop, policy, -⟩ := readable
  refine ⟨⟨_, _, file, own.value? "language", (own.value? "format").bind Format.ofName?, first,
    (own.value? "end").bind lineNumber?, (own.value? "policy").bind Policy.ofName?⟩,
    ⟨rfl, rfl, named, rfl, map_eq_of_readable format, ?_, map_eq_of_readable stop,
      map_eq_of_readable policy⟩, rfl⟩
  rw [map_eq_of_readable start, starts]
  rfl

/-- **Words that ask to find something ask for a lookup.** -/
theorem exists_askedBy {invocation : Invocation} {first last : UInt64} {policy : Option Policy}
    (runs : Request.ofArguments words = .run invocation)
    (finds : invocation.action = .find first last policy) :
    ∃ lookup : Lookup, lookup.AskedBy words ∧ lookup.invocation = invocation := by
  have read : readRequest words = .ok (.run invocation) := by
    unfold Request.ofArguments at runs
    cases outcome : readRequest words with
    | ok request =>
      rw [outcome] at runs
      exact congrArg _ runs
    | error halt =>
      rw [outcome] at runs
      cases halt <;> cases runs
  obtain ⟨⟨general, remaining⟩, before, read⟩ := exists_of_bind_eq_ok read
  split at read
  · rename_i rest same
    cases same
    obtain ⟨own, after, made⟩ := Rules.exists_of_command read
    obtain ⟨lookup, given, same⟩ := exists_givenBy (Rules.admits_empty.readAll after) made
    exact ⟨lookup, ⟨general, own, rest, before, after, given⟩, same⟩
  · -- What stands after `check` gives a check.
    obtain ⟨own, after, made⟩ := Rules.exists_of_command read
    obtain ⟨action, acts, made⟩ := Option.bind_eq_some_iff.mp made
    obtain ⟨file, -, made⟩ := Option.bind_eq_some_iff.mp made
    cases acts
    cases made
    cases finds
  · split at read <;> cases read
  · cases read

/-! ## Words for a lookup -/

/-- The options of a lookup, each with its value if it is given. -/
def slots (lookup : Lookup) : List (String × Option String) :=
  [("config", lookup.settingsPath), ("language", lookup.language),
    ("format", lookup.format.map Format.name), ("start", some (toString lookup.first)),
    ("end", lookup.last.map toString), ("policy", lookup.policy.map Policy.name)]

/-- The options that are given, with their values. -/
def pairs (lookup : Lookup) : List (String × String) :=
  lookup.slots.filterMap fun slot => slot.2.map (slot.1, ·)

/-- What the words after `find` are to give. -/
def ownGiven (lookup : Lookup) : Given where
  values := lookup.pairs.reverse
  file := some lookup.file

/-- The words after `find`. The file comes last, where it may start with a dash. -/
def ownWords (lookup : Lookup) : List String :=
  lookup.pairs.map attachedWord ++ ["--", lookup.file]

/-- Words that ask for a lookup. -/
def written (lookup : Lookup) : List String :=
  (if lookup.verbose then ["-v"] else []) ++ "find" :: lookup.ownWords

theorem nodup_slots (lookup : Lookup) : (lookup.slots.map (·.1)).Nodup := by
  show ["config", "language", "format", "start", "end", "policy"].Nodup
  decide

theorem mem_pairs {name text : String} :
    (name, text) ∈ lookup.pairs ↔ lookup.slots.lookup name = some (some text) := by
  rw [lookup_eq_some_iff_mem lookup.nodup_slots, pairs, List.mem_filterMap]
  constructor
  · rintro ⟨⟨other, value⟩, member, same⟩
    obtain ⟨content, rfl, same⟩ := Option.map_eq_some_iff.mp same
    cases same
    exact member
  · intro member
    exact ⟨(name, some text), member, rfl⟩

theorem nodup_pairs (lookup : Lookup) : (lookup.pairs.map (·.1)).Nodup := by
  have apart := List.pairwise_map.mp lookup.nodup_slots
  refine List.pairwise_map.mpr (apart.filterMap _ ?_)
  intro first second different pair fromFirst other fromSecond
  obtain ⟨text, -, rfl⟩ := Option.map_eq_some_iff.mp fromFirst
  obtain ⟨otherText, -, rfl⟩ := Option.map_eq_some_iff.mp fromSecond
  exact different

theorem bare_pairs (lookup : Lookup) : ∀ pair ∈ lookup.pairs, '=' ∉ pair.1.toList := by
  have bare : ∀ slot ∈ lookup.slots, '=' ∉ slot.1.toList := by
    simp [slots]
  intro pair member
  obtain ⟨slot, inSlots, same⟩ := List.mem_filterMap.mp member
  obtain ⟨text, -, rfl⟩ := Option.map_eq_some_iff.mp same
  exact bare slot inSlots

theorem nodup_reverse_pairs (lookup : Lookup) : (lookup.pairs.reverse.map (·.1)).Nodup := by
  rw [List.map_reverse]
  exact List.nodup_reverse.mpr lookup.nodup_pairs

/-- The value of an option is the one that the lookup has. -/
theorem value?_ownGiven (lookup : Lookup) (name : String) :
    lookup.ownGiven.value? name = (lookup.slots.lookup name).join := by
  refine Option.ext fun text => ?_
  rw [ownGiven, Given.value?, lookup_eq_some_iff_mem lookup.nodup_reverse_pairs, List.mem_reverse,
    mem_pairs, Option.join_eq_some_iff]

theorem isSome_of_restored {α : Type} {write : α → String} {read : String → Option α}
    (restored : ∀ value, read (write value) = some value) {value : Option α} {text : String}
    (given : value.map write = some text) : (read text).isSome = true := by
  obtain ⟨content, -, rfl⟩ := Option.map_eq_some_iff.mp given
  rw [restored, Option.isSome_some]

theorem map_map_of_restored {α : Type} {write : α → String} {read : String → Option α}
    (restored : ∀ value, read (write value) = some value) (value : Option α) :
    (value.map write).map read = value.map some := by
  rw [Option.map_map]
  exact congrArg (value.map ·) (funext restored)

theorem allows_pairs (nonempty : lookup.settingsPath ≠ some "") :
    findRules.Allows lookup.pairs := by
  rintro ⟨name, text⟩ member
  rw [mem_pairs, lookup_eq_some_iff_mem lookup.nodup_slots] at member
  simp only [slots, List.mem_cons, Prod.mk.injEq, List.not_mem_nil, or_false] at member
  rcases member with ⟨rfl, given⟩ | ⟨rfl, given⟩ | ⟨rfl, given⟩ | ⟨rfl, given⟩ | ⟨rfl, given⟩ |
    ⟨rfl, given⟩
  · refine ⟨settingsRule, rfl, bne_iff_ne.mpr ?_⟩
    rintro rfl
    exact nonempty given.symm
  · exact ⟨languageRule, rfl, rfl⟩
  · exact ⟨formatRule, rfl, isSome_of_restored Format.ofName?_name given.symm⟩
  · cases given
    exact ⟨_, rfl, isSome_of_restored lineNumber?_toString (Option.map_some ..)⟩
  · exact ⟨_, rfl, isSome_of_restored lineNumber?_toString given.symm⟩
  · exact ⟨_, rfl, isSome_of_restored Policy.ofName?_name given.symm⟩

theorem readAll_ownWords (named : lookup.file ≠ "") (nonempty : lookup.settingsPath ≠ some "") :
    findRules.readAll lookup.ownWords.length {} lookup.ownWords = .ok lookup.ownGiven := by
  have stretch : findRules.readUntilPlain {} lookup.ownWords =
      .ok ({ values := lookup.pairs.reverse }, ["--", lookup.file]) := by
    rw [ownWords, Rules.readUntilPlain_attachedWords lookup.bare_pairs (allows_pairs nonempty)]
    · rw [List.append_nil]
      rfl
    · rw [List.append_nil]
      exact lookup.nodup_reverse_pairs
  have added : Given.addFile { values := lookup.pairs.reverse } lookup.file =
      .ok lookup.ownGiven := by
    simp [Given.addFile, named, ownGiven]
  have enough : lookup.ownWords.length = lookup.pairs.length + 1 + 1 := by
    simp [ownWords]
  rw [enough, Rules.readAll, stretch]
  show (Given.addFile { values := lookup.pairs.reverse } lookup.file >>= (readFiles · [])) = _
  rw [added]
  rfl

/-- **A lookup is asked for by its words**, provided that its paths are not
empty. -/
theorem askedBy_written (named : lookup.file ≠ "") (nonempty : lookup.settingsPath ≠ some "") :
    lookup.AskedBy lookup.written := by
  have before : generalRules.readUntilPlain {} lookup.written =
      .ok ({ flags := if lookup.verbose then ["verbose"] else [] }, "find" :: lookup.ownWords) := by
    unfold written
    cases lookup.verbose <;> rfl
  refine ⟨_, lookup.ownGiven, _, before, readAll_ownWords named nonempty, ?_⟩
  exact {
    verbose := by cases lookup.verbose <;> rfl
    settingsPath := by
      rw [value?_ownGiven]
      show (lookup.settingsPath <|> none) = lookup.settingsPath
      cases lookup.settingsPath <;> rfl
    file := rfl
    language := lookup.value?_ownGiven _
    format := by
      rw [value?_ownGiven]
      exact map_map_of_restored Format.ofName?_name lookup.format
    first := by
      rw [value?_ownGiven]
      exact map_map_of_restored lineNumber?_toString (some lookup.first)
    last := by
      rw [value?_ownGiven]
      exact map_map_of_restored lineNumber?_toString lookup.last
    policy := by
      rw [value?_ownGiven]
      exact map_map_of_restored Policy.ofName?_name lookup.policy }

end Lookup

end Enclosure.Command
