import AbiTypings.Fault
import AbiTypings.Json.Printer

/-!
# ABIs as JSON values

An ABI is read from a JSON object whose members are looked up by their keys, in the order in which
the fields are declared; the first fault ends the reading and keys that mean nothing are skipped.
A field that should be a text takes any value: null stays null and every other value becomes its
text. A collection is a list, or what a text or an object contains: its characters or its keys. The
entries of a collection are objects or null. `toJson` writes every key of every entry.
-/

namespace AbiTypings

/-- The members of a JSON object. -/
abbrev Members := List (String × Json)

namespace Members

/-- The value under a key that has to be present. -/
def required (members : Members) (key : String) : Except EntryFault Json :=
  match members.lookup key with
  | some value => .ok value
  | none => .error (.missingKey key)

end Members

namespace Json

/-- The text that a field takes from a value. -/
def fieldText : Json → Option String
  | .null => none
  | value => some value.display

/-- What a collection contains; null is no collection. -/
def collection : Json → Except EntryFault (Option (List Json))
  | .null => .ok none
  | .array items => .ok (some items)
  | .text value =>
    .ok (some ((Text.points value.toList).map fun point => .text (Text.ofPoints [point])))
  | .object members => .ok (some (members.map fun member => .text member.1))
  | other => .error (.noCollection other.kind)

/-- An entry of a collection, read from the members of an object. -/
def entry {α : Type} (ofMembers : Members → Except EntryFault α) :
    Json → Except EntryFault (Option α)
  | .null => .ok none
  | .object members => (ofMembers members).map some
  | other => .error (.noObject other.kind)

/-- The entries of the collection under a key that may be absent. -/
def entries {α : Type} (ofItem : Json → Except EntryFault α) (members : Members) (key : String) :
    Except EntryFault (Option (List α)) := do
  match ← ((members.lookup key).getD .null).collection with
  | none => return none
  | some items => return some (← items.mapM ofItem)

/-- A text or null. -/
def ofText : Option String → Json
  | none => .null
  | some value => .text value

/-- A list or null. -/
def ofEntries {α : Type} (toJson : α → Json) : Option (List α) → Json
  | none => .null
  | some items => .array (items.map toJson)

/-- An entry or null. -/
def ofEntry {α : Type} (toJson : α → Json) : Option α → Json
  | none => .null
  | some value => toJson value

end Json

/-! ## Reading -/

/-- The alias under the keys `new_type_name` and `type`. -/
def TypeAlias.ofMembers (members : Members) : Except EntryFault TypeAlias := do
  let name ← members.required "new_type_name"
  let target ← members.required "type"
  return ⟨name.fieldText, target.fieldText⟩

/-- A member of a variant; null becomes the text that stands for it. -/
def Variant.memberOfJson (value : Json) : Option String := some (shown value.fieldText)

/-- The variant under the keys `name` and `types`. -/
def Variant.ofMembers (members : Members) : Except EntryFault Variant := do
  let name ← members.required "name"
  let held ← Json.entries (fun value => .ok (memberOfJson value)) members "types"
  return ⟨name.fieldText, held⟩

/-- The field under the keys `name` and `type`. -/
def Field.ofMembers (members : Members) : Except EntryFault Field := do
  let name ← members.required "name"
  let type ← members.required "type"
  return ⟨name.fieldText, type.fieldText⟩

/-- The struct under the keys `name`, `base` and `fields`; an absent base is the empty text. -/
def Struct.ofMembers (members : Members) : Except EntryFault Struct := do
  let name ← members.required "name"
  let base := ((members.lookup "base").getD (.text "")).fieldText
  let fields ← Json.entries (Json.entry Field.ofMembers) members "fields"
  return ⟨name.fieldText, base, fields⟩

/-- The ABI under the keys `version`, `types`, `variants` and `structs`; a version that is absent
or null is the empty text. -/
def Abi.ofMembers (members : Members) : Except EntryFault Abi := do
  let version := ((members.lookup "version").getD .null).fieldText
  let aliases ← Json.entries (Json.entry TypeAlias.ofMembers) members "types"
  let variants ← Json.entries (Json.entry Variant.ofMembers) members "variants"
  let structs ← Json.entries (Json.entry Struct.ofMembers) members "structs"
  return ⟨some (version.getD ""), aliases, variants, structs⟩

/-! ## Writing -/

/-- An alias with all its keys. -/
def TypeAlias.toJson (entry : TypeAlias) : Json :=
  .object [("new_type_name", .ofText entry.name), ("type", .ofText entry.target)]

/-- A variant with all its keys. -/
def Variant.toJson (entry : Variant) : Json :=
  .object [("name", .ofText entry.name), ("types", .ofEntries .ofText entry.members)]

/-- A field with all its keys. -/
def Field.toJson (entry : Field) : Json :=
  .object [("name", .ofText entry.name), ("type", .ofText entry.type)]

/-- A struct with all its keys. -/
def Struct.toJson (entry : Struct) : Json :=
  .object [
    ("name", .ofText entry.name),
    ("base", .ofText entry.base),
    ("fields", .ofEntries (.ofEntry Field.toJson) entry.fields)]

/-- An ABI with all its keys. -/
def Abi.toJson (abi : Abi) : Json :=
  .object [
    ("version", .ofText abi.version),
    ("types", .ofEntries (.ofEntry TypeAlias.toJson) abi.aliases),
    ("variants", .ofEntries (.ofEntry Variant.toJson) abi.variants),
    ("structs", .ofEntries (.ofEntry Struct.toJson) abi.structs)]

/-- A text that was written is the text that is read. -/
theorem Json.fieldText_ofText (text : Option String) : (Json.ofText text).fieldText = text := by
  cases text <;> rfl

/-- An alias that was written is the alias that is read. -/
theorem TypeAlias.entry_toJson (entry : Option TypeAlias) :
    Json.entry ofMembers (Json.ofEntry toJson entry) = .ok entry := by
  cases entry with
  | none => rfl
  | some entry =>
    obtain ⟨name, target⟩ := entry
    change Except.ok (some (TypeAlias.mk _ _)) = _
    simp [Json.fieldText_ofText]

/-- A field that was written is the field that is read. -/
theorem Field.entry_toJson (entry : Option Field) :
    Json.entry ofMembers (Json.ofEntry toJson entry) = .ok entry := by
  cases entry with
  | none => rfl
  | some entry =>
    obtain ⟨name, type⟩ := entry
    change Except.ok (some (Field.mk _ _)) = _
    simp [Json.fieldText_ofText]

end AbiTypings
