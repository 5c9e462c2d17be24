import AbiTypings.Proofs.Loading

/-!
# Collections that are loaded

The collections of a loaded ABI have one entry for each item of the value that they are read from,
in order. That value is a list wherever entries are read, unless there is nothing in it: an empty
text and an empty object count as empty lists. The members of a variant are read from a list, from
the characters of a text, or from the names in an object.
-/

namespace AbiTypings

/-- The members of a variant are the texts of the items under `types`, in order. -/
def Variant.Mirrors (members : Members) (entry : Variant) : Prop :=
  ∃ value items, members.lookup "types" = some value ∧ value.Contains items ∧
    entry.members = some (items.map memberOfJson)

/-- The fields of a struct are those listed under `fields`. -/
def Struct.Mirrors (members : Members) (entry : Struct) : Prop :=
  ∃ fields, entry.fields = some fields ∧
    Json.Lists Field.ReadFrom (members.lookup "fields") (some fields)

/-- The members of a variant may be read from the value under `types`: it is a list, a text or an
object. -/
def Variant.Collects (members : Members) : Prop :=
  ∃ value items, members.lookup "types" = some value ∧ value.Contains items

/-- The fields of a struct may be read from the value under `fields`: it is a list, the empty text
or the empty object. -/
def Struct.Collects (members : Members) : Prop :=
  ∃ value items, members.lookup "fields" = some value ∧ value.Contains items ∧
    (value = .array items ∨ items = [])

namespace Json

variable {α : Type} {readFrom other : Members → α → Prop}

/-- Entries that are listed are also listed by another relation that holds of each of them. -/
theorem Lists.mono {stored : Option Json} {entries : Option (List (Option α))}
    (lists : Lists readFrom stored entries)
    (each : ∀ members entry, some entry ∈ entries.getD [] → readFrom members entry →
      other members entry) : Lists other stored entries := by
  cases lists with
  | absent => exact .absent
  | null => exact .null
  | emptyText => exact .emptyText
  | emptyObject => exact .emptyObject
  | array paired =>
    apply Lists.array
    induction paired with
    | nil => exact .nil
    | cons head tail ih =>
      refine .cons ?_ (ih fun members entry member => each members entry (.tail _ member))
      cases head with
      | null => exact .null
      | object found => exact .object (each _ _ (.head _) found)

/-- Entries that are there are listed by a value that contains items; if it is no list, there are
none. -/
theorem Lists.exists_contains {stored : Option Json} {entries : List (Option α)}
    (lists : Lists readFrom stored (some entries)) :
    ∃ value items, stored = some value ∧ value.Contains items ∧
      (value = .array items ∨ items = []) := by
  cases lists with
  | array paired => exact ⟨_, _, rfl, .array _, .inl rfl⟩
  | emptyText => exact ⟨_, _, rfl, .text "", .inr rfl⟩
  | emptyObject => exact ⟨_, _, rfl, .object [], .inr rfl⟩

end Json

/-! ## Entries -/

/-- The members of a variant that was read are the texts of the items, if it has members. -/
theorem Variant.ReadFrom.mirrors {members : Members} {entry : Variant}
    (read : entry.ReadFrom members) {held : List (Option String)}
    (stored : entry.members = some held) : entry.Mirrors members := by
  have gathers := read.members
  rw [stored] at gathers
  generalize found : members.lookup "types" = value at gathers
  cases gathers with
  | items contained each =>
    refine ⟨_, _, found, contained, ?_⟩
    have same : List.Forall₂ Eq (List.map memberOfJson _) held :=
      List.forall₂_map_left_iff.mpr each
    rw [List.forall₂_eq_eq_eq] at same
    rw [stored, same]

/-- The fields of a struct that was read are those listed, if it has fields. -/
theorem Struct.ReadFrom.mirrors {members : Members} {entry : Struct}
    (read : entry.ReadFrom members) {held : List (Option Field)}
    (stored : entry.fields = some held) : entry.Mirrors members := by
  have lists := read.fields
  rw [stored] at lists
  exact ⟨held, stored, lists⟩

/-- A variant has members only if they may be read from the value under `types`. -/
theorem Variant.Mirrors.collects {members : Members} {entry : Variant}
    (mirrors : entry.Mirrors members) : Collects members := by
  obtain ⟨value, items, stored, contained, -⟩ := mirrors
  exact ⟨value, items, stored, contained⟩

/-- A struct has fields only if they may be read from the value under `fields`. -/
theorem Struct.Mirrors.collects {members : Members} {entry : Struct}
    (mirrors : entry.Mirrors members) : Collects members := by
  obtain ⟨fields, -, lists⟩ := mirrors
  exact lists.exists_contains

/-! ## Loaded ABIs -/

namespace Abi

variable {abi : Abi} {members : Members}

/-- The variants of a loaded ABI are listed with the members that they have. -/
theorem ReadFrom.lists_variants (read : abi.ReadFrom members) (listed : abi.IsListed) :
    Json.Lists Variant.Mirrors (members.lookup "variants") abi.variants := by
  refine read.variants.mono fun held variant member found => ?_
  obtain ⟨_, _, same, stored⟩ := listed.variants _ member
  obtain rfl := Option.some.inj same
  exact found.mirrors stored

/-- The structs of a loaded ABI are listed with the fields that they have. -/
theorem ReadFrom.lists_structs (read : abi.ReadFrom members) (listed : abi.IsListed) :
    Json.Lists Struct.Mirrors (members.lookup "structs") abi.structs := by
  refine read.structs.mono fun held struct member found => ?_
  obtain ⟨_, _, same, stored⟩ := listed.structs _ member
  obtain rfl := Option.some.inj same
  exact found.mirrors stored

/-- A null that the check meets was read from a null among the variants or the structs. -/
theorem ReadFrom.hasItem_null (read : abi.ReadFrom members) {need : Need}
    (met : abi.MeetsNull need) :
    members.HasItem "variants" .null ∨ members.HasItem "structs" .null := by
  rcases met.mem with member | member
  · obtain ⟨item, inside, isNull⟩ := read.variants.exists_reads member
    cases isNull
    exact .inl inside
  · obtain ⟨item, inside, isNull⟩ := read.structs.exists_reads member
    cases isNull
    exact .inr inside

/-- A value with a variant or struct that has no collection of members or fields is not loaded. -/
theorem ofJson_ne_ok_of_lacking {members held : Members}
    (lacking : (members.HasItem "variants" (.object held) ∧ ¬ Variant.Collects held) ∨
      (members.HasItem "structs" (.object held) ∧ ¬ Struct.Collects held)) (abi : Abi) :
    ofJson (.object members) ≠ .ok abi := by
  intro loaded
  obtain ⟨_, same, read, listed⟩ := ofJson_eq_ok_iff.mp loaded
  obtain rfl := Json.object.inj same
  rcases lacking with ⟨inside, lacks⟩ | ⟨inside, lacks⟩
  · obtain ⟨_, -, entryRead⟩ := (read.lists_variants listed).exists_of_hasItem inside
    cases entryRead with
    | object mirrors => exact lacks mirrors.collects
  · obtain ⟨_, -, entryRead⟩ := (read.lists_structs listed).exists_of_hasItem inside
    cases entryRead with
    | object mirrors => exact lacks mirrors.collects

/-- Without nulls among the variants and the structs, a value that is not loaded is malformed. -/
theorem malformed_of_hasNoNull {members : Members} {fault : Fault}
    (noVariant : ¬ members.HasItem "variants" .null) (noStruct : ¬ members.HasItem "structs" .null)
    (failed : ofJson (.object members) = .error fault) :
    ∃ malformation, fault = .malformed malformation := by
  rcases malformed_or_null_of_ofJson failed with malformed | ⟨need, rfl⟩
  · exact malformed
  · obtain ⟨_, abi, same, read, met⟩ := ofJson_eq_null_iff.mp failed
    obtain rfl := Json.object.inj same
    rcases read.hasItem_null met with isNull | isNull
    · exact absurd isNull noVariant
    · exact absurd isNull noStruct

/-- The collections of a loaded ABI have an entry for each item of the value that they are read
from, in order; that value is a list, or an empty text or object, and for the members of a variant
a list, a text or an object. A value with a variant or struct that has no such collection is not
loaded, and it is malformed unless a null stands in the place of a variant or struct. -/
theorem ofJson_collections (value : Json) :
    (∀ abi, ofJson value = .ok abi → ∃ members : Members, value = .object members ∧
      Json.Lists TypeAlias.ReadFrom (members.lookup "types") abi.aliases ∧
      Json.Lists Variant.Mirrors (members.lookup "variants") abi.variants ∧
      Json.Lists Struct.Mirrors (members.lookup "structs") abi.structs) ∧
    ∀ members held : Members, value = .object members →
      (members.HasItem "variants" (.object held) ∧ ¬ Variant.Collects held) ∨
        (members.HasItem "structs" (.object held) ∧ ¬ Struct.Collects held) →
      (∀ abi, ofJson value ≠ .ok abi) ∧
        (¬ members.HasItem "variants" .null → ¬ members.HasItem "structs" .null →
          ∃ malformation, ofJson value = .error (.malformed malformation)) := by
  constructor
  · intro abi loaded
    obtain ⟨members, rfl, read, listed⟩ := ofJson_eq_ok_iff.mp loaded
    exact ⟨members, rfl, read.aliases, read.lists_variants listed, read.lists_structs listed⟩
  · rintro members held rfl lacking
    refine ⟨ofJson_ne_ok_of_lacking lacking, fun noVariant noStruct => ?_⟩
    cases loaded : ofJson (.object members) with
    | ok abi => exact absurd loaded (ofJson_ne_ok_of_lacking lacking abi)
    | error fault =>
      obtain ⟨malformation, rfl⟩ := malformed_of_hasNoNull noVariant noStruct loaded
      exact ⟨malformation, rfl⟩

/-- A struct with a number in the place of its fields. -/
def numericFields : Members := [("name", .text "s"), ("fields", .integer 5)]

/-- An ABI with the struct with a number in the place of its fields. -/
def numericFieldsAbi : Members := [("structs", .array [.object numericFields])]

/-- The fields of a struct are not read from a number. -/
theorem ofJson_collections_numericFields :
    numericFieldsAbi.HasItem "structs" (.object numericFields) ∧
      ¬ Struct.Collects numericFields ∧
      ∃ malformation, ofJson (.object numericFieldsAbi) = .error (.malformed malformation) := by
  have inside : numericFieldsAbi.HasItem "structs" (.object numericFields) :=
    ⟨_, _, rfl, .array _, List.mem_singleton_self _⟩
  have lacks : ¬ Struct.Collects numericFields := by
    rintro ⟨value, items, stored, contained, -⟩
    obtain rfl : Json.integer 5 = value := Option.some.inj stored
    cases contained
  have noVariant : ¬ numericFieldsAbi.HasItem "variants" .null := by
    rintro ⟨value, items, stored, -⟩
    contradiction
  have noStruct : ¬ numericFieldsAbi.HasItem "structs" .null := by
    rintro ⟨value, items, stored, contained, isNull⟩
    obtain rfl : Json.array [.object numericFields] = value := Option.some.inj stored
    cases contained
    simp at isNull
  exact ⟨inside, lacks,
    ((ofJson_collections _).2 _ _ rfl (.inr ⟨inside, lacks⟩)).2 noVariant noStruct⟩

/-- A variant has a member for each character of a text, and an empty text counts as a list of
fields. -/
theorem ofJson_collections_text :
    ofJson (.object [("variants", .array [.object [("name", .text "v"), ("types", .text "ab")]])]) =
        .ok { variants := some [some ⟨some "v", some [some "a", some "b"]⟩] } ∧
      ofJson (.object [("structs", .array [.object [("name", .text "s"), ("fields", .text "")]])]) =
        .ok { structs := some [some { name := some "s", fields := some [] }] } :=
  ⟨by rfl, by rfl⟩

end Abi
end AbiTypings
