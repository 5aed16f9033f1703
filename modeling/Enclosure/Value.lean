/-!
# Plain data

Results and settings are exchanged as plain data: nothing, truth values,
numbers, texts, lists and records. A record keeps its fields in the order in
which they are written, because the order shows in print. Numbers are integers;
a number written with a fraction or an exponent is kept as its text and fits no
type of this library.

A type with named fields can be read from a record, in any order of the fields,
or from a list of the field values in order of declaration. The two forms treat
a field that is not there differently, so reading goes through slots: a field is
given, absent from a record, or cut off at the end of a list.
-/

set_option autoImplicit false

namespace Enclosure

/-- Plain data. -/
inductive Value where
  | null
  | bool (truth : Bool)
  | number (value : Int)
  | decimal (digits : String)
  | text (content : String)
  | list (items : List Value)
  | record (fields : List (String × Value))
deriving Inhabited

/-- What a record or a list holds for a field. -/
inductive Slot where
  | given (value : Value)
  /-- A record does not have the field. -/
  | absent
  /-- A list ends before the field. -/
  | cut

namespace Slot

/-- The field must be there. -/
def required {α : Type} (read : Value → Option α) : Slot → Option α
  | given value => read value
  | absent | cut => none

/-- A record may leave the field out. -/
def optional {α : Type} (read : Value → Option α) : Slot → Option (Option α)
  | given .null | absent => some none
  | given value => (read value).map some
  | cut => none

/-- A record or a list may leave the field out, which then has a default. -/
def defaulted {α : Type} (default : α) (read : Value → Option α) : Slot → Option α
  | given value => read value
  | absent | cut => some default

end Slot

/-- How a record treats fields that are not declared. -/
inductive Strictness where
  | ignoreUnknown
  | refuseUnknown
deriving DecidableEq

namespace Value

/-- The slots of the declared fields, in order of declaration. A record must not
give a declared field twice, and a list must not be longer than the
declaration. -/
def slots (strictness : Strictness) (names : List String) : Value → Option (List Slot)
  | list items =>
    if items.length ≤ names.length then
      some (items.map .given ++ List.replicate (names.length - items.length) .cut)
    else none
  | record fields =>
    let keys := fields.map (·.1)
    if names.any (fun name => 1 < keys.count name) then none
    else if strictness = .refuseUnknown ∧ keys.any (fun key => !names.contains key) then none
    else some (names.map fun name =>
      match fields.lookup name with
      | some value => .given value
      | none => .absent)
  | _ => none

/-- The data as a truth value. -/
def toBool? : Value → Option Bool
  | bool truth => some truth
  | _ => none

/-- The data as a text. -/
def toText? : Value → Option String
  | text content => some content
  | _ => none

/-- The data as a 32-bit word. -/
def toWord32? : Value → Option UInt32
  | number value => if 0 ≤ value ∧ value < UInt32.size then some (.ofNat value.toNat) else none
  | _ => none

/-- The data as a 64-bit word. -/
def toWord64? : Value → Option UInt64
  | number value => if 0 ≤ value ∧ value < UInt64.size then some (.ofNat value.toNat) else none
  | _ => none

/-- The data as a list of things of one kind. -/
def toListOf? {α : Type} (read : Value → Option α) : Value → Option (List α)
  | list items => items.mapM read
  | _ => none

/-- The data as a thing that may be missing. -/
def toOptionOf? {α : Type} (read : Value → Option α) : Value → Option (Option α)
  | null => some none
  | value => (read value).map some

/-- A 32-bit word as data. -/
def ofWord32 (word : UInt32) : Value := .number word.toNat

/-- A 64-bit word as data. -/
def ofWord64 (word : UInt64) : Value := .number word.toNat

end Value

end Enclosure
