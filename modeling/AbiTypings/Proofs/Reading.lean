import AbiTypings.Abi.Load
import AbiTypings.Proofs.Traversal

/-!
# What is read from JSON values

For each kind of entry a relation says which entries are read from the members of an object, key by
key and without the order in which the keys are looked up or the faults that may end the reading.
Reading returns an entry exactly when the relation holds (`ofMembers_eq_ok_iff`). A collection of
entries is read from a list, one entry from each item; a text or an object is taken for such a
collection only if there is nothing in it, since what it contains are texts and no entries. The
members of a variant are texts, so there every text and every object is taken.
-/

namespace AbiTypings

namespace Json

/-- What a value contains: the items of a list, the points of a text, each as a text, or the names
in an object. -/
inductive Contains : Json → List Json → Prop where
  | array (items : List Json) : Contains (.array items) items
  | text (value : String) :
    Contains (.text value)
      ((Text.points value.toList).map fun point => .text (Text.ofPoints [point]))
  | object (members : Members) :
    Contains (.object members) (members.map fun member => .text member.1)

/-- What is read from the value under a key: nothing if it is absent or null, and otherwise one
value from each item that it contains, in order. -/
inductive Gathers {α : Type} (reads : Json → α → Prop) : Option Json → Option (List α) → Prop where
  | absent : Gathers reads none none
  | null : Gathers reads (some .null) none
  | items {value : Json} {items : List Json} {found : List α} (contained : value.Contains items)
    (each : List.Forall₂ reads items found) : Gathers reads (some value) (some found)

/-- An entry is read from the members of an object, and null is read from null. -/
inductive ReadsEntry {α : Type} (readFrom : Members → α → Prop) : Json → Option α → Prop where
  | null : ReadsEntry readFrom .null none
  | object {members : Members} {entry : α} (found : readFrom members entry) :
    ReadsEntry readFrom (.object members) (some entry)

/-- The entries read from the value under a key: none if it is absent or null, and otherwise one
from each item of a list, in order. An empty text and an empty object count as empty lists. -/
inductive Lists {α : Type} (readFrom : Members → α → Prop) :
    Option Json → Option (List (Option α)) → Prop where
  | absent : Lists readFrom none none
  | null : Lists readFrom (some .null) none
  | array {items : List Json} {entries : List (Option α)}
    (each : List.Forall₂ (ReadsEntry readFrom) items entries) :
    Lists readFrom (some (.array items)) (some entries)
  | emptyText : Lists readFrom (some (.text "")) (some [])
  | emptyObject : Lists readFrom (some (.object [])) (some [])

end Json

/-- The value under a key is there, and a field takes the text from it. -/
def Members.Gives (members : Members) (key : String) (text : Option String) : Prop :=
  ∃ value, members.lookup key = some value ∧ value.fieldText = text

/-- The value under a key contains an item. -/
def Members.HasItem (members : Members) (key : String) (item : Json) : Prop :=
  ∃ value items, members.lookup key = some value ∧ value.Contains items ∧ item ∈ items

/-- The alias that members describe. -/
structure TypeAlias.ReadFrom (members : Members) (entry : TypeAlias) : Prop where
  name : members.Gives "new_type_name" entry.name
  target : members.Gives "type" entry.target

/-- The variant that members describe. -/
structure Variant.ReadFrom (members : Members) (entry : Variant) : Prop where
  name : members.Gives "name" entry.name
  members : Json.Gathers (fun item member => memberOfJson item = member) (members.lookup "types")
    entry.members

/-- The field that members describe. -/
structure Field.ReadFrom (members : Members) (entry : Field) : Prop where
  name : members.Gives "name" entry.name
  type : members.Gives "type" entry.type

/-- The struct that members describe; an absent base is the empty text. -/
structure Struct.ReadFrom (members : Members) (entry : Struct) : Prop where
  name : members.Gives "name" entry.name
  base : ((members.lookup "base").getD (.text "")).fieldText = entry.base
  fields : Json.Lists Field.ReadFrom (members.lookup "fields") entry.fields

/-- The ABI that members describe; a version that is absent or null is the empty text. -/
structure Abi.ReadFrom (members : Members) (abi : Abi) : Prop where
  version : some ((((members.lookup "version").getD .null).fieldText).getD "") = abi.version
  aliases : Json.Lists TypeAlias.ReadFrom (members.lookup "types") abi.aliases
  variants : Json.Lists Variant.ReadFrom (members.lookup "variants") abi.variants
  structs : Json.Lists Struct.ReadFrom (members.lookup "structs") abi.structs

/-! ## Collections -/

namespace Json

variable {α : Type}

/-- Nothing is read from null only. -/
theorem collection_eq_none_iff {value : Json} : value.collection = .ok none ↔ value = .null := by
  cases value <;> simp [collection]

/-- Items are read from a value exactly when it contains them. -/
theorem collection_eq_some_iff {value : Json} {items : List Json} :
    value.collection = .ok (some items) ↔ value.Contains items := by
  constructor
  · intro read
    cases value with
    | array held =>
      obtain rfl : held = items := by simpa [collection] using read
      exact .array held
    | text held =>
      obtain rfl := Option.some.inj (Except.ok.inj read)
      exact .text held
    | object held =>
      obtain rfl := Option.some.inj (Except.ok.inj read)
      exact .object held
    | _ => simp [collection] at read
  · rintro (_ | _ | _) <;> rfl

/-- A collection is read exactly when the value under its key gathers it. -/
theorem entries_eq_ok_iff {ofItem : Json → Except EntryFault α} {members : Members} {key : String}
    {found : Option (List α)} :
    entries ofItem members key = .ok found ↔
      Gathers (fun item value => ofItem item = .ok value) (members.lookup key) found := by
  rw [entries, bind_eq_ok_iff]
  constructor
  · rintro ⟨contained, read, later⟩
    cases contained with
    | none =>
      obtain rfl := Except.ok.inj later
      have isNull := collection_eq_none_iff.mp read
      cases stored : members.lookup key with
      | none => exact .absent
      | some value =>
        rw [stored] at isNull
        obtain rfl : value = .null := isNull
        exact .null
    | some items =>
      obtain ⟨values, each, same⟩ := bind_eq_ok_iff.mp later
      obtain rfl := Except.ok.inj same
      have contains := collection_eq_some_iff.mp read
      cases stored : members.lookup key with
      | none =>
        rw [stored] at contains
        cases contains
      | some value =>
        rw [stored] at contains
        exact .items contains (mapM_eq_ok_iff.mp each)
  · intro gathers
    generalize members.lookup key = stored at gathers
    cases gathers with
    | absent => exact ⟨none, rfl, rfl⟩
    | null => exact ⟨none, rfl, rfl⟩
    | items contained each =>
      refine ⟨some _, collection_eq_some_iff.mpr contained, ?_⟩
      exact bind_eq_ok_iff.mpr ⟨_, mapM_eq_ok_iff.mpr each, rfl⟩

/-- An entry is read exactly when the relation on its members holds. -/
theorem entry_eq_ok_iff {ofMembers : Members → Except EntryFault α}
    {readFrom : Members → α → Prop}
    (exact : ∀ members value, ofMembers members = .ok value ↔ readFrom members value)
    {item : Json} {found : Option α} :
    entry ofMembers item = .ok found ↔ ReadsEntry readFrom item found := by
  constructor
  · intro read
    cases item with
    | null =>
      obtain rfl := Except.ok.inj read
      exact .null
    | object members =>
      cases parsed : ofMembers members with
      | error fault => simp [entry, parsed, Except.map] at read
      | ok value =>
        have same : some value = found := by simpa [entry, parsed, Except.map] using read
        exact same ▸ .object ((exact members value).mp parsed)
    | _ => simp [entry] at read
  · rintro (_ | ⟨found⟩)
    · rfl
    · rw [entry, (exact _ _).mpr found]
      rfl

/-- Entries are never read from texts, so a text or an object gathers them only if it is empty. -/
theorem gathers_readsEntry_iff {readFrom : Members → α → Prop} {stored : Option Json}
    {found : Option (List (Option α))} :
    Gathers (ReadsEntry readFrom) stored found ↔ Lists readFrom stored found := by
  constructor
  · rintro (_ | _ | ⟨contained, each⟩)
    · exact .absent
    · exact .null
    · cases contained with
      | array items => exact .array each
      | text value =>
        cases points : Text.points value.toList with
        | nil =>
          obtain rfl : value = "" := String.toList_eq_nil_iff.mp (Text.points_eq_nil_iff.mp points)
          obtain rfl := List.forall₂_nil_left_iff.mp each
          exact .emptyText
        | cons point rest =>
          -- an entry would have to be read from the text of the first point
          rw [points] at each
          obtain ⟨_, _, read, -, -⟩ := List.forall₂_cons_left_iff.mp each
          cases read
      | object members =>
        cases members with
        | nil =>
          obtain rfl := List.forall₂_nil_left_iff.mp each
          exact .emptyObject
        | cons member rest =>
          obtain ⟨_, _, read, -, -⟩ := List.forall₂_cons_left_iff.mp each
          cases read
  · rintro (_ | _ | each | _ | _)
    · exact .absent
    · exact .null
    · exact .items (.array _) each
    · exact .items (.text "") .nil
    · exact .items (.object []) .nil

/-- A value contains the same items whenever it is asked. -/
theorem Contains.unique {value : Json} {items others : List Json} (left : value.Contains items)
    (right : value.Contains others) : items = others := by
  have found := collection_eq_some_iff.mpr left
  rw [collection_eq_some_iff.mpr right] at found
  exact (Option.some.inj (Except.ok.inj found)).symm

/-- Each value that was gathered was read from an item. -/
theorem Gathers.exists_reads {reads : Json → α → Prop} {members : Members} {key : String}
    {found : Option (List α)} (gathers : Gathers reads (members.lookup key) found) {value : α}
    (member : value ∈ found.getD []) : ∃ item, members.HasItem key item ∧ reads item value := by
  generalize stored : members.lookup key = under at gathers
  cases gathers with
  | absent => exact absurd member List.not_mem_nil
  | null => exact absurd member List.not_mem_nil
  | items contained each =>
    obtain ⟨item, inside, read⟩ := exists_of_mem_right each member
    exact ⟨item, ⟨_, _, stored, contained, inside⟩, read⟩

/-- From each item a value was gathered. -/
theorem Gathers.exists_of_hasItem {reads : Json → α → Prop} {members : Members} {key : String}
    {found : Option (List α)} (gathers : Gathers reads (members.lookup key) found) {item : Json}
    (inside : members.HasItem key item) : ∃ value ∈ found.getD [], reads item value := by
  obtain ⟨value, items, stored, contains, member⟩ := inside
  rw [stored] at gathers
  cases gathers with
  | null => cases contains
  | items contained each =>
    obtain rfl := contained.unique contains
    exact exists_of_mem_left each member

/-- Each entry of a collection was read from an item. -/
theorem Lists.exists_reads {readFrom : Members → α → Prop} {members : Members} {key : String}
    {entries : Option (List (Option α))} (lists : Lists readFrom (members.lookup key) entries)
    {entry : Option α} (member : entry ∈ entries.getD []) :
    ∃ item, members.HasItem key item ∧ ReadsEntry readFrom item entry :=
  (gathers_readsEntry_iff.mpr lists).exists_reads member

/-- From each item of a collection an entry was read. -/
theorem Lists.exists_of_hasItem {readFrom : Members → α → Prop} {members : Members} {key : String}
    {entries : Option (List (Option α))} (lists : Lists readFrom (members.lookup key) entries)
    {item : Json} (inside : members.HasItem key item) :
    ∃ entry ∈ entries.getD [], ReadsEntry readFrom item entry :=
  (gathers_readsEntry_iff.mpr lists).exists_of_hasItem inside

/-- A collection of entries is read exactly when the value under its key lists it. -/
theorem entries_entry_eq_ok_iff {ofMembers : Members → Except EntryFault α}
    {readFrom : Members → α → Prop}
    (exact : ∀ members value, ofMembers members = .ok value ↔ readFrom members value)
    {members : Members} {key : String} {found : Option (List (Option α))} :
    entries (entry ofMembers) members key = .ok found ↔
      Lists readFrom (members.lookup key) found := by
  have each : (fun item value => entry ofMembers item = .ok value) = ReadsEntry readFrom := by
    funext item value
    exact propext (entry_eq_ok_iff exact)
  rw [entries_eq_ok_iff, each, gathers_readsEntry_iff]

end Json

/-! ## Entries -/

/-- A value that has to be present is found exactly under its key. -/
theorem Members.required_eq_ok_iff {members : Members} {key : String} {value : Json} :
    members.required key = .ok value ↔ members.lookup key = some value := by
  rw [required]
  cases members.lookup key <;> simp

/-- An alias is read exactly from the members that describe it. -/
theorem TypeAlias.ofMembers_eq_ok_iff (members : Members) (entry : TypeAlias) :
    ofMembers members = .ok entry ↔ entry.ReadFrom members := by
  simp only [ofMembers, bind_eq_ok_iff, Members.required_eq_ok_iff]
  constructor
  · rintro ⟨name, named, target, targeted, same⟩
    obtain rfl := Except.ok.inj same
    exact ⟨⟨name, named, rfl⟩, ⟨target, targeted, rfl⟩⟩
  · rintro ⟨⟨name, named, nameText⟩, ⟨target, targeted, targetText⟩⟩
    refine ⟨name, named, target, targeted, ?_⟩
    rw [nameText, targetText]
    rfl

/-- A variant is read exactly from the members that describe it. -/
theorem Variant.ofMembers_eq_ok_iff (members : Members) (entry : Variant) :
    ofMembers members = .ok entry ↔ entry.ReadFrom members := by
  have each : (fun item member => (Except.ok (memberOfJson item) : Except EntryFault _) =
      .ok member) = fun item member => memberOfJson item = member := by
    funext item member
    exact propext ⟨Except.ok.inj, congrArg _⟩
  simp only [ofMembers, bind_eq_ok_iff, Members.required_eq_ok_iff, Json.entries_eq_ok_iff, each]
  constructor
  · rintro ⟨name, named, held, gathered, same⟩
    obtain rfl := Except.ok.inj same
    exact ⟨⟨name, named, rfl⟩, gathered⟩
  · rintro ⟨⟨name, named, nameText⟩, gathered⟩
    refine ⟨name, named, entry.members, gathered, ?_⟩
    rw [nameText]
    rfl

/-- A field is read exactly from the members that describe it. -/
theorem Field.ofMembers_eq_ok_iff (members : Members) (entry : Field) :
    ofMembers members = .ok entry ↔ entry.ReadFrom members := by
  simp only [ofMembers, bind_eq_ok_iff, Members.required_eq_ok_iff]
  constructor
  · rintro ⟨name, named, type, typed, same⟩
    obtain rfl := Except.ok.inj same
    exact ⟨⟨name, named, rfl⟩, ⟨type, typed, rfl⟩⟩
  · rintro ⟨⟨name, named, nameText⟩, ⟨type, typed, typeText⟩⟩
    refine ⟨name, named, type, typed, ?_⟩
    rw [nameText, typeText]
    rfl

/-- A struct is read exactly from the members that describe it. -/
theorem Struct.ofMembers_eq_ok_iff (members : Members) (entry : Struct) :
    ofMembers members = .ok entry ↔ entry.ReadFrom members := by
  simp only [ofMembers, bind_eq_ok_iff, Members.required_eq_ok_iff,
    Json.entries_entry_eq_ok_iff Field.ofMembers_eq_ok_iff]
  constructor
  · rintro ⟨name, named, fields, listed, same⟩
    obtain rfl := Except.ok.inj same
    exact ⟨⟨name, named, rfl⟩, rfl, listed⟩
  · rintro ⟨⟨name, named, nameText⟩, based, listed⟩
    refine ⟨name, named, entry.fields, listed, ?_⟩
    rw [nameText, based]
    rfl

/-- An ABI is read exactly from the members that describe it. -/
theorem Abi.ofMembers_eq_ok_iff (members : Members) (abi : Abi) :
    ofMembers members = .ok abi ↔ abi.ReadFrom members := by
  simp only [ofMembers, bind_eq_ok_iff, Json.entries_entry_eq_ok_iff TypeAlias.ofMembers_eq_ok_iff,
    Json.entries_entry_eq_ok_iff Variant.ofMembers_eq_ok_iff,
    Json.entries_entry_eq_ok_iff Struct.ofMembers_eq_ok_iff]
  constructor
  · rintro ⟨aliases, aliased, variants, varied, structs, structured, same⟩
    obtain rfl := Except.ok.inj same
    exact ⟨rfl, aliased, varied, structured⟩
  · rintro ⟨versioned, aliased, varied, structured⟩
    refine ⟨abi.aliases, aliased, abi.variants, varied, abi.structs, structured, ?_⟩
    rw [versioned]
    rfl

end AbiTypings
