import AbiTypings.Proofs.Loading

/-!
# Loading what was written

An ABI that is written as a JSON value with all its keys is read back as it was, whatever nulls it
has, except that a null version becomes the empty text and a null member the text that shows it. So
the ABIs that can be loaded are those that have neither and that also pass the check, and loading is
a retraction onto them.
-/

namespace AbiTypings

/-- The version is a text, no variant and no struct is null, every variant has its list of members,
none of them null, and every struct has its list of fields. -/
structure Abi.IsLoadable (abi : Abi) : Prop where
  version : abi.version ≠ none
  variants : ∀ entry ∈ abi.variantList, ∃ variant members,
    entry = some variant ∧ variant.members = some members ∧ none ∉ members
  structs : ∀ entry ∈ abi.structList, ∃ struct fields,
    entry = some struct ∧ struct.fields = some fields

/-! ## Reading what was written -/

/-- A text that was written is given by its key. -/
theorem Members.gives_of_ofText {members : Members} {key : String} {text : Option String}
    (stored : members.lookup key = some (.ofText text)) : members.Gives key text :=
  ⟨_, stored, Json.fieldText_ofText text⟩

/-- Entries that were written are listed when each of them is read back. -/
theorem Json.lists_ofEntries {α : Type} {readFrom : Members → α → Prop} {toJson : α → Json}
    {entries : Option (List (Option α))}
    (each : ∀ entry ∈ entries.getD [], ReadsEntry readFrom (ofEntry toJson entry) entry) :
    Lists readFrom (some (ofEntries (ofEntry toJson) entries)) entries := by
  cases entries with
  | none => exact .null
  | some entries =>
    apply Lists.array
    rw [List.forall₂_map_left_iff, List.forall₂_same]
    exact each

/-- Members that were written are gathered when none of them is null. -/
theorem Variant.gathers_ofEntries {members : Option (List (Option String))}
    (filled : none ∉ members.getD []) :
    Json.Gathers (fun item member => memberOfJson item = member)
      (some (.ofEntries .ofText members)) members := by
  cases members with
  | none => exact .null
  | some members =>
    apply Json.Gathers.items (.array _)
    rw [List.forall₂_map_left_iff, List.forall₂_same]
    intro member inside
    cases member with
    | none =>
      -- a null member would come back as the text that shows it
      exact absurd inside filled
    | some token => rfl

/-- An alias that was written is read back. -/
theorem TypeAlias.readsEntry_toJson (entry : Option TypeAlias) :
    Json.ReadsEntry ReadFrom (.ofEntry toJson entry) entry :=
  (Json.entry_eq_ok_iff ofMembers_eq_ok_iff).mp (entry_toJson entry)

/-- A field that was written is read back. -/
theorem Field.readsEntry_toJson (entry : Option Field) :
    Json.ReadsEntry ReadFrom (.ofEntry toJson entry) entry :=
  (Json.entry_eq_ok_iff ofMembers_eq_ok_iff).mp (entry_toJson entry)

/-- A struct that was written is read back. -/
theorem Struct.readsEntry_toJson (entry : Option Struct) :
    Json.ReadsEntry ReadFrom (.ofEntry toJson entry) entry := by
  cases entry with
  | none => exact .null
  | some entry =>
    apply Json.ReadsEntry.object
    exact {
      name := Members.gives_of_ofText rfl
      base := Json.fieldText_ofText entry.base
      fields := Json.lists_ofEntries fun field _ => Field.readsEntry_toJson field }

/-- A variant without null members that was written is read back. -/
theorem Variant.readsEntry_toJson {entry : Option Variant}
    (filled : ∀ variant, entry = some variant → none ∉ variant.memberList) :
    Json.ReadsEntry ReadFrom (.ofEntry toJson entry) entry := by
  cases entry with
  | none => exact .null
  | some entry =>
    apply Json.ReadsEntry.object
    exact {
      name := Members.gives_of_ofText rfl
      members := gathers_ofEntries (filled entry rfl) }

namespace Abi

variable {abi : Abi}

/-- An ABI that was written is read back when its version and all members are there. -/
theorem readFrom_toJson (versioned : abi.version ≠ none)
    (filled : ∀ variant, some variant ∈ abi.variantList → none ∉ variant.memberList) :
    ∃ members, abi.toJson = .object members ∧ abi.ReadFrom members := by
  obtain ⟨version, stored⟩ := Option.ne_none_iff_exists'.mp versioned
  refine ⟨_, rfl, ?_⟩
  exact {
    version := by rw [stored]; rfl
    aliases := Json.lists_ofEntries fun entry _ => TypeAlias.readsEntry_toJson entry
    variants := Json.lists_ofEntries fun entry member =>
      Variant.readsEntry_toJson fun variant same => filled variant (same ▸ member)
    structs := Json.lists_ofEntries fun entry _ => Struct.readsEntry_toJson entry }

/-- A loadable ABI that was written is loaded as it was. -/
theorem ofJson_toJson (loadable : abi.IsLoadable) : ofJson abi.toJson = .ok abi := by
  have filled : ∀ variant, some variant ∈ abi.variantList → none ∉ variant.memberList := by
    intro variant member
    obtain ⟨found, members, same, held, whole⟩ := loadable.variants _ member
    obtain rfl := Option.some.inj same
    rw [Variant.memberList, held]
    exact whole
  have listed : abi.IsListed := {
    variants := fun entry member => by
      obtain ⟨variant, members, same, held, -⟩ := loadable.variants entry member
      exact ⟨variant, members, same, held⟩
    structs := loadable.structs }
  obtain ⟨members, written, read⟩ := readFrom_toJson loadable.version filled
  exact ofJson_eq_ok_iff.mpr ⟨members, written, read, listed⟩

end Abi

/-! ## What can be loaded -/

/-- No member of a variant that was read is null. -/
theorem Variant.ReadFrom.none_notMem {members : Members} {entry : Variant}
    (read : entry.ReadFrom members) : none ∉ entry.memberList := by
  intro member
  obtain ⟨item, -, isNone⟩ := read.members.exists_reads member
  contradiction

namespace Abi

variable {abi : Abi}

/-- No variant of an ABI that was read has a null member. -/
theorem ReadFrom.none_notMem {members : Members} (read : abi.ReadFrom members) {variant : Variant}
    (member : some variant ∈ abi.variantList) : none ∉ variant.memberList := by
  obtain ⟨item, -, entryRead⟩ := read.variants.exists_reads member
  cases entryRead with
  | object found => exact found.none_notMem

/-- An ABI that is loaded is loadable. -/
theorem isLoadable_of_ofJson {value : Json} (loaded : ofJson value = .ok abi) :
    abi.IsLoadable := by
  obtain ⟨members, -, read, listed⟩ := ofJson_eq_ok_iff.mp loaded
  constructor
  · rw [← read.version]
    exact Option.some_ne_none _
  · intro entry member
    obtain ⟨variant, held, rfl, stored⟩ := listed.variants entry member
    refine ⟨variant, held, rfl, stored, ?_⟩
    have whole := read.none_notMem member
    rwa [Variant.memberList, stored] at whole
  · exact listed.structs

/-- Loading is a retraction onto the loadable ABIs: it returns a loadable ABI from the JSON value
with all its keys, and whatever it returns is loadable, so what it returned once is returned again
from its own JSON value. -/
theorem ofJson_retraction (abi : Abi) :
    (abi.IsLoadable → ofJson abi.toJson = .ok abi) ∧
      ∀ value, ofJson value = .ok abi → abi.IsLoadable ∧ ofJson abi.toJson = .ok abi := by
  refine ⟨ofJson_toJson, ?_⟩
  intro value loaded
  have loadable := isLoadable_of_ofJson loaded
  exact ⟨loadable, ofJson_toJson loadable⟩

/-- An ABI with nulls wherever a loadable one may have them. -/
def nullsKept : Abi where
  version := some "eosio::abi/1.1"
  aliases := some [none, some ⟨none, none⟩]
  variants := some [some ⟨none, some [some "uint8?", some "None"]⟩]
  structs := some [some ⟨none, none, some [none, some ⟨none, some "name[]"⟩]⟩]

/-- The ABI `nullsKept` is loadable and loaded from its JSON value. -/
theorem ofJson_retraction_nullsKept :
    nullsKept.IsLoadable ∧ ofJson nullsKept.toJson = .ok nullsKept := by
  have loadable : nullsKept.IsLoadable := by
    refine ⟨Option.some_ne_none _, ?_, ?_⟩
    · simp [nullsKept, variantList]
    · simp [nullsKept, structList]
  exact ⟨loadable, (ofJson_retraction nullsKept).1 loadable⟩

end Abi
end AbiTypings
