import Enclosure.Settings
import Enclosure.Value

/-!
# The library's types as plain data

Each type is written in one canonical form, with its fields in order of
declaration, and read from that form and from a few others: fields in any order,
a list of the field values, and, for settings, with fields left out. Reading is
strict about types and ranges, and settings are also strict about the names of
fields, so that a misspelt field is never ignored.
-/

set_option autoImplicit false

namespace Enclosure

namespace Position

/-- A position as data. -/
def toValue (position : Position) : Value :=
  .record [("line", .ofWord32 position.line), ("column", .ofWord32 position.column)]

/-- Data as a position. -/
def ofValue? (value : Value) : Option Position := do
  let [line, column] ← value.slots .ignoreUnknown ["line", "column"] | none
  return ⟨← line.required Value.toWord32?, ← column.required Value.toWord32?⟩

end Position

namespace LineSpan

/-- A span of lines as data. -/
def toValue (span : LineSpan) : Value :=
  .record [("start", .ofWord64 span.first), ("end", .ofWord64 span.last)]

/-- Data as a span of lines. -/
def ofValue? (value : Value) : Option LineSpan := do
  let [first, last] ← value.slots .ignoreUnknown ["start", "end"] | none
  return ⟨← first.required Value.toWord64?, ← last.required Value.toWord64?⟩

end LineSpan

namespace LineMark

/-- A line as data. -/
def toValue (mark : LineMark) : Value := .record [("line", .ofWord64 mark.line)]

/-- Data as a line. -/
def ofValue? (value : Value) : Option LineMark := do
  let [line] ← value.slots .ignoreUnknown ["line"] | none
  return ⟨← line.required Value.toWord64?⟩

end LineMark

namespace Extent

/-- A first and a last line as data. -/
def toValue (extent : Extent) : Value :=
  .record [("start", extent.first.toValue), ("end", extent.last.toValue)]

/-- Data as a first and a last line. -/
def ofValue? (value : Value) : Option Extent := do
  let [first, last] ← value.slots .ignoreUnknown ["start", "end"] | none
  return ⟨← first.required LineMark.ofValue?, ← last.required LineMark.ofValue?⟩

end Extent

namespace StructuralUnit

/-- A structural unit as data. -/
def toValue (unit : StructuralUnit) : Value :=
  .record [("kind", .text unit.kind), ("loc", unit.extent.toValue)]

/-- Data as a structural unit. -/
def ofValue? (value : Value) : Option StructuralUnit := do
  let [kind, extent] ← value.slots .ignoreUnknown ["kind", "loc"] | none
  return ⟨← kind.required Value.toText?, ← extent.required Extent.ofValue?⟩

end StructuralUnit

namespace Finding

/-- The answer to a lookup as data. -/
def toValue (finding : Finding) : Value :=
  .record [("enclosingContext", (finding.unit.map StructuralUnit.toValue).getD .null)]

/-- Data as the answer to a lookup; a record may leave the unit out. -/
def ofValue? (value : Value) : Option Finding := do
  let [unit] ← value.slots .ignoreUnknown ["enclosingContext"] | none
  return ⟨← unit.optional StructuralUnit.ofValue?⟩

end Finding

namespace Verdict

/-- A verdict as data. -/
def toValue (verdict : Verdict) : Value :=
  .record [("valid", .bool verdict.valid), ("error", .text verdict.error)]

/-- Data as a verdict. -/
def ofValue? (value : Value) : Option Verdict := do
  let [valid, error] ← value.slots .ignoreUnknown ["valid", "error"] | none
  return ⟨← valid.required Value.toBool?, ← error.required Value.toText?⟩

end Verdict

namespace ErrorSite

/-- The site of an error as data. -/
def toValue (site : ErrorSite) : Value :=
  .record [("startLine", .ofWord64 site.startLine), ("startColumn", .ofWord32 site.startColumn),
    ("endLine", .ofWord64 site.endLine)]

/-- Data as the site of an error. -/
def ofValue? (value : Value) : Option ErrorSite := do
  let [startLine, startColumn, endLine] ←
    value.slots .ignoreUnknown ["startLine", "startColumn", "endLine"] | none
  return ⟨← startLine.required Value.toWord64?, ← startColumn.required Value.toWord32?,
    ← endLine.required Value.toWord64?⟩

/-- A list of sites as data. -/
def listToValue (sites : List ErrorSite) : Value := .list (sites.map toValue)

/-- Data as a list of sites. -/
def listOfValue? (value : Value) : Option (List ErrorSite) := value.toListOf? ofValue?

end ErrorSite

namespace Policy

/-- A policy as data. -/
def toValue (policy : Policy) : Value := .text policy.name

/-- A policy is written as its name, or as a record whose only field has that
name and holds nothing. -/
def ofValue? : Value → Option Policy
  | .text name => ofName? name
  | .record [(name, .null)] => ofName? name
  | _ => none

end Policy

namespace KindSet

/-- A set of kinds as data. -/
def toValue (set : KindSet) : Value := .list (set.kinds.map .text)

/-- Data as a set of kinds, in any order and with repetitions. -/
def ofValue? (value : Value) : Option KindSet := (value.toListOf? Value.toText?).map ofList

end KindSet

namespace Selection

/-- A selection as data. -/
def toValue (selection : Selection) : Value :=
  .record [("structuralKinds", selection.kinds.toValue), ("policy", selection.policy.toValue)]

/-- Data as a selection; what is left out has its default. -/
def ofValue? (value : Value) : Option Selection := do
  let [kinds, policy] ← value.slots .ignoreUnknown ["structuralKinds", "policy"] | none
  return ⟨← kinds.defaulted KindSet.standard KindSet.ofValue?,
    ← policy.defaulted .outermost Policy.ofValue?⟩

end Selection

namespace Override

/-- The adjustments for one language as data. -/
def toValue (entry : Override) : Value :=
  .record
    [("structural_kinds",
        (entry.structuralKinds.map fun kinds => Value.list (kinds.map .text)).getD .null),
      ("extra_kinds", .list (entry.extraKinds.map .text))]

/-- Data as the adjustments for one language; what is left out has its default. -/
def ofValue? (value : Value) : Option Override := do
  let [structural, extra] ← value.slots .refuseUnknown ["structural_kinds", "extra_kinds"] | none
  return ⟨← structural.defaulted none (Value.toOptionOf? (Value.toListOf? Value.toText?)),
    ← extra.defaulted [] (Value.toListOf? Value.toText?)⟩

end Override

namespace OverrideTable

/-- Overrides by name as data. -/
def toValue (table : OverrideTable) : Value :=
  .record (table.entries.map fun (name, entry) => (name, entry.toValue))

/-- A named override. -/
def entryOfValue? (field : String × Value) : Option (String × Override) :=
  (Override.ofValue? field.2).map (field.1, ·)

/-- Data as overrides by name. -/
def ofValue? : Value → Option OverrideTable
  | .record fields => (fields.mapM entryOfValue?).map ofList
  | _ => none

end OverrideTable

namespace Settings

/-- Settings as data. -/
def toValue (settings : Settings) : Value :=
  .record [("policy", settings.policy.toValue), ("languages", settings.languages.toValue)]

/-- Data as settings, not validated; what is left out has its default. -/
def ofValue? (value : Value) : Option Settings := do
  let [policy, languages] ← value.slots .refuseUnknown ["policy", "languages"] | none
  return ⟨← policy.defaulted .outermost Policy.ofValue?,
    ← languages.defaulted .empty OverrideTable.ofValue?⟩

end Settings

end Enclosure
