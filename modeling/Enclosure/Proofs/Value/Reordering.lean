import Enclosure.Value
import Mathlib.Data.List.Forall2
import Mathlib.Data.List.Nodup
import Mathlib.Data.List.Perm.Basic

/-!
# Data whose fields stand in another order

A record keeps its fields in the order in which they are written, but who exchanges data
may reorder them. `Value.Reordered` relates data to what becomes of them when the fields
of records change places, at any depth. Lists keep their order.

A reader must not care: `Restores` says that a reader gives back what was written from
every reordering of it. For the data of which others are made this holds by looking at
them (`restores_text`, `restores_word64`, `Restores.list`, …). A type with named fields
reads them through slots, and the slots hold the same fields whether these are given under
their names, in any order, or as a list in order of declaration (`Value.Supplies.slots`);
this is `RestoresFields`.
-/

set_option autoImplicit false

namespace Enclosure

/-- In a list without repeated keys, a key finds exactly the pairs that have it. -/
theorem lookup_eq_some_iff_mem {α : Type} {pairs : List (String × α)} {key : String} {content : α}
    (distinct : (pairs.map (·.1)).Nodup) :
    pairs.lookup key = some content ↔ (key, content) ∈ pairs := by
  constructor
  · intro found
    obtain ⟨before, after, split, -⟩ := List.lookup_eq_some_iff.mp found
    simp [split]
  · intro member
    obtain ⟨before, after, rfl⟩ := List.append_of_mem member
    refine List.lookup_eq_some_iff.mpr ⟨before, after, rfl, fun other inFront => ?_⟩
    rw [List.map_append, List.nodup_append] at distinct
    have different := distinct.2.2 other.1 (List.mem_map_of_mem inFront) key (by simp)
    exact bne_iff_ne.mpr different.symm

/-- Reading one by one succeeds when every part is read, and gives what the parts are read
as. -/
theorem mapM_eq_some_iff_forall₂ {α β : Type} {read : α → Option β} {parts : List α}
    {things : List β} :
    parts.mapM read = some things ↔
      List.Forall₂ (fun part thing => read part = some thing) parts things := by
  constructor
  · intro done
    induction parts generalizing things with
    | nil =>
      cases done
      exact .nil
    | cons part parts ih =>
      simp only [List.mapM_cons, Option.bind_eq_bind, Option.bind_eq_some_iff] at done
      obtain ⟨thing, first, others, rest, same⟩ := done
      cases same
      exact .cons first (ih rest)
  · intro each
    induction each with
    | nil => rfl
    | cons head _ ih => simp [List.mapM_cons, head, ih]

theorem exists_of_mem_of_forall₂ {α β : Type} {relates : α → β → Prop} {originals : List α}
    {others : List β} (each : List.Forall₂ relates originals others) {other : β}
    (member : other ∈ others) : ∃ original ∈ originals, relates original other := by
  induction each with
  | nil => cases member
  | cons head _ ih =>
    rcases List.mem_cons.mp member with rfl | later
    · exact ⟨_, List.mem_cons_self, head⟩
    · obtain ⟨original, listed, related⟩ := ih later
      exact ⟨original, List.mem_cons_of_mem _ listed, related⟩

namespace Value

/-- The same data, with the fields of records in any order, at any depth. -/
inductive Reordered : Value → Value → Prop where
  | same (value : Value) : Reordered value value
  | list {items others : List Value} (each : List.Forall₂ Reordered items others) :
      Reordered (.list items) (.list others)
  | record {fields renewed others : List (String × Value)}
      (named : renewed.map (·.1) = fields.map (·.1))
      (each : List.Forall₂ Reordered (fields.map (·.2)) (renewed.map (·.2)))
      (shuffled : renewed.Perm others) : Reordered (.record fields) (.record others)

theorem forall₂_reordered_same (values : List Value) : List.Forall₂ Reordered values values :=
  List.forall₂_same.mpr fun value _ => .same value

namespace Reordered

variable {value : Value}

theorem eq_null (reordered : Reordered value .null) : value = .null := by
  cases reordered
  rfl

theorem exists_of_list {items : List Value} (reordered : Reordered (.list items) value) :
    ∃ others, value = .list others ∧ List.Forall₂ Reordered items others := by
  cases reordered with
  | same => exact ⟨items, rfl, forall₂_reordered_same items⟩
  | list each => exact ⟨_, rfl, each⟩

theorem exists_of_record {fields : List (String × Value)}
    (reordered : Reordered (.record fields) value) :
    ∃ renewed others : List (String × Value),
      value = .record others ∧ renewed.map (·.1) = fields.map (·.1) ∧
      List.Forall₂ Reordered (fields.map (·.2)) (renewed.map (·.2)) ∧ renewed.Perm others := by
  cases reordered with
  | same => exact ⟨fields, fields, rfl, rfl, forall₂_reordered_same _, .refl fields⟩
  | record named each shuffled => exact ⟨_, _, rfl, named, each, shuffled⟩

/-- Fields with the same names, one by one. -/
theorem forall₂_fields {fields renewed : List (String × Value)}
    (named : renewed.map (·.1) = fields.map (·.1))
    (each : List.Forall₂ Reordered (fields.map (·.2)) (renewed.map (·.2))) :
    List.Forall₂ (fun field other => other.1 = field.1 ∧ Reordered field.2 other.2)
      fields renewed := by
  induction fields generalizing renewed with
  | nil =>
    obtain rfl := List.map_eq_nil_iff.mp named
    exact .nil
  | cons field fields ih =>
    cases renewed with
    | nil => cases each
    | cons other renewed =>
      obtain ⟨sameName, sameNames⟩ := List.cons.inj named
      cases each with
      | cons head tail => exact .cons ⟨sameName, head⟩ (ih sameNames tail)

end Reordered

/-- The data hold the fields of a record, reordered inside: under their names in any order,
or as a list in the order of the record. -/
inductive Supplies (fields : List (String × Value)) : Value → Prop where
  | named {value : Value} (reordered : Reordered (.record fields) value) : Supplies fields value
  | positional {values : List Value} (each : List.Forall₂ Reordered (fields.map (·.2)) values) :
      Supplies fields (.list values)

/-- The slots of a record with exactly the declared fields, in any order. -/
theorem slots_of_perm {fields others : List (String × Value)} (shuffled : fields.Perm others)
    (distinct : (fields.map (·.1)).Nodup) (strictness : Strictness) :
    (record others).slots strictness (fields.map (·.1)) =
      some (fields.map fun field => .given field.2) := by
  have keys : (fields.map (·.1)).Perm (others.map (·.1)) := shuffled.map _
  have othersDistinct : (others.map (·.1)).Nodup := keys.nodup_iff.mp distinct
  have once : ¬ (fields.map (·.1)).any fun name => 1 < (others.map (·.1)).count name := by
    simp only [List.any_eq_true, decide_eq_true_eq, not_exists, not_and, Nat.not_lt]
    intro name _
    exact List.nodup_iff_count_le_one.mp othersDistinct name
  have known : ¬ (others.map (·.1)).any fun key => !(fields.map (·.1)).contains key := by
    simp only [List.any_eq_true, Bool.not_eq_true', not_exists, not_and, Bool.not_eq_false,
      List.contains_iff_mem]
    intro key listed
    exact keys.mem_iff.mpr listed
  simp only [slots]
  rw [if_neg once, if_neg fun both => known both.2, List.map_map]
  refine congrArg some (List.map_congr_left fun field member => ?_)
  have found := (lookup_eq_some_iff_mem othersDistinct).mpr (shuffled.mem_iff.mp member)
  simp only [Function.comp_apply, found]

/-- **The slots of data that supply the declared fields hold these fields.** -/
theorem Supplies.slots {fields : List (String × Value)} {value : Value}
    (supplies : Supplies fields value) (names : List String)
    (declared : fields.map (·.1) = names) (distinct : names.Nodup) (strictness : Strictness) :
    ∃ values, value.slots strictness names = some (values.map .given) ∧
      List.Forall₂ Reordered (fields.map (·.2)) values := by
  cases supplies with
  | named reordered =>
    obtain ⟨renewed, others, rfl, named, each, shuffled⟩ := reordered.exists_of_record
    refine ⟨renewed.map (·.2), ?_, each⟩
    rw [← declared, ← named] at distinct ⊢
    rw [slots_of_perm shuffled distinct, List.map_map]
    rfl
  | @positional values each =>
    have length : values.length = names.length := by
      rw [← each.length_eq, List.length_map, ← declared, List.length_map]
    exact ⟨values, by simp [Value.slots, length], each⟩

end Value

namespace Slot

variable {α : Type} (read : Value → Option α) (value : Value)

@[simp]
theorem required_given : (given value).required read = read value := rfl

@[simp]
theorem defaulted_given (default : α) : (given value).defaulted default read = read value := rfl

@[simp]
theorem optional_given : (given value).optional read = value.toOptionOf? read := by
  cases value <;> rfl

end Slot

/-! ## Readers that do not care about order -/

/-- Reading restores what was written, also when fields of records have changed places. -/
def Restores {α : Type} (write : α → Value) (read : Value → Option α) : Prop :=
  ∀ thing value, (write thing).Reordered value → read value = some thing

/-- Reading restores what was written as a record from everything that supplies the fields
of the record. -/
def RestoresFields {α : Type} (write : α → Value) (read : Value → Option α) : Prop :=
  ∀ thing fields, write thing = .record fields →
    ∀ value, Value.Supplies fields value → read value = some thing

theorem RestoresFields.restores {α : Type} {write : α → Value} {read : Value → Option α}
    (fieldwise : RestoresFields write read)
    (isRecord : ∀ thing, ∃ fields, write thing = .record fields) : Restores write read := by
  intro thing value reordered
  obtain ⟨fields, written⟩ := isRecord thing
  rw [written] at reordered
  exact fieldwise thing fields written value (.named reordered)

theorem restores_text : Restores Value.text Value.toText? := by
  intro content value reordered
  cases reordered
  rfl

theorem restores_bool : Restores Value.bool Value.toBool? := by
  intro truth value reordered
  cases reordered
  rfl

theorem restores_word32 : Restores Value.ofWord32 Value.toWord32? := by
  intro word value reordered
  have bound := word.toNat_lt_size
  cases reordered
  rw [Value.ofWord32, Value.toWord32?, if_pos ⟨Int.natCast_nonneg _, Int.ofNat_lt.mpr bound⟩,
    Int.toNat_natCast, UInt32.ofNat_toNat]

theorem restores_word64 : Restores Value.ofWord64 Value.toWord64? := by
  intro word value reordered
  have bound := word.toNat_lt_size
  cases reordered
  rw [Value.ofWord64, Value.toWord64?, if_pos ⟨Int.natCast_nonneg _, Int.ofNat_lt.mpr bound⟩,
    Int.toNat_natCast, UInt64.ofNat_toNat]

/-- A list is restored when its items are. -/
theorem Restores.list {α : Type} {write : α → Value} {read : Value → Option α}
    (restores : Restores write read) :
    Restores (fun things => .list (things.map write)) (Value.toListOf? read) := by
  intro things value reordered
  obtain ⟨items, rfl, each⟩ := reordered.exists_of_list
  refine mapM_eq_some_iff_forall₂.mpr ?_
  rw [List.forall₂_map_left_iff] at each
  exact each.flip.imp fun item thing => restores thing item

/-- A thing that may be missing is restored when the thing is and is not written as nothing. -/
theorem Restores.option {α : Type} {write : α → Value} {read : Value → Option α}
    (restores : Restores write read) (notNull : ∀ thing, write thing ≠ .null) :
    Restores (fun possible => (possible.map write).getD .null) (Value.toOptionOf? read) := by
  intro possible value reordered
  cases possible with
  | none =>
    cases reordered
    rfl
  | some thing =>
    have found : read value = some thing := restores thing value reordered
    cases value with
    | null => exact absurd (Value.Reordered.eq_null reordered) (notNull thing)
    | _ => simp [Value.toOptionOf?, found]

end Enclosure
