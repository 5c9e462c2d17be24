import AbiTypings.Abi.Load
import AbiTypings.Proofs.Traversal

/-!
# The order of keys

An ABI and its entries are read from objects by looking up the keys that mean something, in the order
in which the fields are declared. So neither the order of the keys in an object nor a key that means
nothing has a say in what is read, or in which fault ends the reading when there are several. Two
objects that agree on the keys of an entry are read alike (`ofMembers_of_reorders`, one for each kind
of entry), where the objects in a collection need to agree only in the same way.
-/

namespace AbiTypings

namespace Members

/-- No key stands twice in an object. -/
def IsDistinct (members : Members) : Prop := (members.map Prod.fst).Nodup

instance (members : Members) : Decidable members.IsDistinct :=
  inferInstanceAs (Decidable (members.map Prod.fst).Nodup)

/-- Wherever a key stands in two objects, it has similar values in them, and it stands in both or in
none. -/
structure AgreesOn (members : Members) (key : String) (similar : Json → Json → Prop)
    (others : Members) : Prop where
  left : ∀ value, (key, value) ∈ members → ∃ other, (key, other) ∈ others ∧ similar value other
  right : ∀ other, (key, other) ∈ others → ∃ value, (key, value) ∈ members ∧ similar value other

end Members

namespace Json

/-- Two items of a collection are the same value, or objects that are alike as entries. -/
inductive ReordersEntry (reorders : Members → Members → Prop) : Json → Json → Prop where
  | same (value : Json) : ReordersEntry reorders value value
  | object {members others : Members} (reordered : reorders members others) :
    ReordersEntry reorders (.object members) (.object others)

/-- Two collections are the same value, or lists of items that are alike one by one. -/
inductive ReordersEntries (reorders : Members → Members → Prop) : Json → Json → Prop where
  | same (value : Json) : ReordersEntries reorders value value
  | array {items others : List Json} (each : List.Forall₂ (ReordersEntry reorders) items others) :
    ReordersEntries reorders (.array items) (.array others)

end Json

/-- Two objects are alike as aliases: they differ in the order of their keys and in keys that an
alias does not have. -/
structure TypeAlias.Reorders (members others : Members) : Prop where
  distinct : members.IsDistinct ∧ others.IsDistinct
  name : members.AgreesOn "new_type_name" Eq others
  target : members.AgreesOn "type" Eq others

/-- Two objects are alike as variants. -/
structure Variant.Reorders (members others : Members) : Prop where
  distinct : members.IsDistinct ∧ others.IsDistinct
  name : members.AgreesOn "name" Eq others
  members : members.AgreesOn "types" Eq others

/-- Two objects are alike as fields. -/
structure Field.Reorders (members others : Members) : Prop where
  distinct : members.IsDistinct ∧ others.IsDistinct
  name : members.AgreesOn "name" Eq others
  type : members.AgreesOn "type" Eq others

/-- Two objects are alike as structs, and so are the objects among their fields. -/
structure Struct.Reorders (members others : Members) : Prop where
  distinct : members.IsDistinct ∧ others.IsDistinct
  name : members.AgreesOn "name" Eq others
  base : members.AgreesOn "base" Eq others
  fields : members.AgreesOn "fields" (Json.ReordersEntries Field.Reorders) others

/-- Two objects are alike as ABIs, and so are the objects among their aliases, variants and
structs. -/
structure Abi.Reorders (members others : Members) : Prop where
  distinct : members.IsDistinct ∧ others.IsDistinct
  version : members.AgreesOn "version" Eq others
  aliases : members.AgreesOn "types" (Json.ReordersEntries TypeAlias.Reorders) others
  variants : members.AgreesOn "variants" (Json.ReordersEntries Variant.Reorders) others
  structs : members.AgreesOn "structs" (Json.ReordersEntries Struct.Reorders) others

/-! ## Looking up keys -/

namespace Members

variable {members others : Members} {key : String}

/-- Where no key stands twice, the value under a key is found wherever it stands. -/
theorem IsDistinct.lookup_eq_some_iff {value : Json} (distinct : members.IsDistinct) :
    members.lookup key = some value ↔ (key, value) ∈ members := by
  induction members with
  | nil => simp
  | cons member rest ih =>
    obtain ⟨name, held⟩ := member
    obtain ⟨fresh, later⟩ := List.nodup_cons.mp distinct
    rw [Json.lookup_cons_if, List.mem_cons]
    by_cases here : key = name
    · subst here
      have absent : (key, value) ∉ rest := fun member =>
        fresh (List.mem_map.mpr ⟨_, member, rfl⟩)
      simp [absent, eq_comm]
    · simp [here, ih later]

/-- Objects agree on a key exactly when they have similar values under it. -/
theorem agreesOn_iff {similar : Json → Json → Prop}
    (distinct : members.IsDistinct ∧ others.IsDistinct) :
    members.AgreesOn key similar others ↔
      Option.Rel similar (members.lookup key) (others.lookup key) := by
  constructor
  · rintro ⟨left, right⟩
    cases found : members.lookup key with
    | some value =>
      obtain ⟨other, member, alike⟩ := left value (distinct.1.lookup_eq_some_iff.mp found)
      rw [distinct.2.lookup_eq_some_iff.mpr member]
      exact .some alike
    | none =>
      cases otherFound : others.lookup key with
      | none => exact .none
      | some other =>
        obtain ⟨value, member, -⟩ := right other (distinct.2.lookup_eq_some_iff.mp otherFound)
        rw [distinct.1.lookup_eq_some_iff.mpr member] at found
        contradiction
  · intro related
    constructor
    · intro value member
      rw [distinct.1.lookup_eq_some_iff.mpr member] at related
      cases found : others.lookup key with
      | none =>
        rw [found] at related
        cases related
      | some other =>
        rw [found] at related
        cases related with
        | some alike => exact ⟨other, distinct.2.lookup_eq_some_iff.mp found, alike⟩
    · intro other member
      rw [distinct.2.lookup_eq_some_iff.mpr member] at related
      cases found : members.lookup key with
      | none =>
        rw [found] at related
        cases related
      | some value =>
        rw [found] at related
        cases related with
        | some alike => exact ⟨value, distinct.1.lookup_eq_some_iff.mp found, alike⟩

/-- Objects that have the same value under a key find the same there. -/
theorem AgreesOn.lookup_eq (distinct : members.IsDistinct ∧ others.IsDistinct)
    (agrees : members.AgreesOn key Eq others) : members.lookup key = others.lookup key := by
  have related := (agreesOn_iff distinct).mp agrees
  generalize members.lookup key = found, others.lookup key = otherFound at related
  cases related with
  | none => rfl
  | some same => rw [same]

/-- A value that has to be present is the same in objects that agree on its key. -/
theorem AgreesOn.required_eq (distinct : members.IsDistinct ∧ others.IsDistinct)
    (agrees : members.AgreesOn key Eq others) : members.required key = others.required key := by
  rw [required, required, agrees.lookup_eq distinct]

end Members

/-! ## Reading entries -/

namespace Json

variable {α : Type} {ofMembers : Members → Except EntryFault α}
  {reorders : Members → Members → Prop} {members others : Members} {key : String}

/-- Items that are alike are read alike. -/
theorem ReordersEntry.entry_eq
    (alike : ∀ members others, reorders members others → ofMembers members = ofMembers others)
    {item other : Json} (reordered : ReordersEntry reorders item other) :
    entry ofMembers item = entry ofMembers other := by
  cases reordered with
  | same => rfl
  | object reordered => rw [entry, entry, alike _ _ reordered]

/-- Collections under a key that are alike are read alike. -/
theorem entries_eq_of_reorders
    (alike : ∀ members others, reorders members others → ofMembers members = ofMembers others)
    (distinct : members.IsDistinct ∧ others.IsDistinct)
    (agrees : members.AgreesOn key (ReordersEntries reorders) others) :
    entries (entry ofMembers) members key = entries (entry ofMembers) others key := by
  have related := (Members.agreesOn_iff distinct).mp agrees
  rw [entries, entries]
  generalize members.lookup key = found, others.lookup key = otherFound at related
  cases related with
  | none => rfl
  | some reordered =>
    cases reordered with
    | same => rfl
    | array each =>
      have read := mapM_eq_of_forall₂ (each.imp fun _ _ => ReordersEntry.entry_eq alike)
      change (List.mapM (entry ofMembers) _ >>= fun found => Except.ok (some found)) =
        (List.mapM (entry ofMembers) _ >>= fun found => Except.ok (some found))
      rw [read]

end Json

/-- Objects that are alike as aliases are read alike. -/
theorem TypeAlias.ofMembers_of_reorders (members others : Members)
    (reordered : Reorders members others) : ofMembers members = ofMembers others := by
  have name := reordered.name.required_eq reordered.distinct
  have target := reordered.target.required_eq reordered.distinct
  rw [ofMembers, ofMembers, name, target]

/-- Objects that are alike as variants are read alike. -/
theorem Variant.ofMembers_of_reorders (members others : Members)
    (reordered : Reorders members others) : ofMembers members = ofMembers others := by
  have name := reordered.name.required_eq reordered.distinct
  have held := reordered.members.lookup_eq reordered.distinct
  rw [ofMembers, ofMembers, name, Json.entries, Json.entries, held]

/-- Objects that are alike as fields are read alike. -/
theorem Field.ofMembers_of_reorders (members others : Members)
    (reordered : Reorders members others) : ofMembers members = ofMembers others := by
  have name := reordered.name.required_eq reordered.distinct
  have type := reordered.type.required_eq reordered.distinct
  rw [ofMembers, ofMembers, name, type]

/-- Objects that are alike as structs are read alike. -/
theorem Struct.ofMembers_of_reorders (members others : Members)
    (reordered : Reorders members others) : ofMembers members = ofMembers others := by
  have name := reordered.name.required_eq reordered.distinct
  have base := reordered.base.lookup_eq reordered.distinct
  have fields := Json.entries_eq_of_reorders Field.ofMembers_of_reorders reordered.distinct
    reordered.fields
  rw [ofMembers, ofMembers, name, base, fields]

/-- Objects that are alike as ABIs are read alike. -/
theorem Abi.ofMembers_of_reorders (members others : Members)
    (reordered : Reorders members others) : ofMembers members = ofMembers others := by
  have version := reordered.version.lookup_eq reordered.distinct
  have aliases := Json.entries_eq_of_reorders TypeAlias.ofMembers_of_reorders reordered.distinct
    reordered.aliases
  have variants := Json.entries_eq_of_reorders Variant.ofMembers_of_reorders reordered.distinct
    reordered.variants
  have structs := Json.entries_eq_of_reorders Struct.ofMembers_of_reorders reordered.distinct
    reordered.structs
  rw [ofMembers, ofMembers, version, aliases, variants, structs]

/-! ## Loading -/

namespace Abi

/-- Neither the order of the keys nor a key that means nothing has a say in what is loaded, in the
object of the ABI and in the objects of its aliases, variants, structs and fields: the same ABI is
loaded, or loading fails with the same fault. -/
theorem ofJson_of_reorders {members others : Members} (reordered : Reorders members others) :
    ofJson (.object members) = ofJson (.object others) := by
  rw [ofJson, ofJson, ofMembers_of_reorders _ _ reordered]

/-- An ABI whose second struct has no list of fields. -/
def tidyMembers : Members := [
  ("version", .text "1"),
  ("types", .array [.object [("new_type_name", .text "owner"), ("type", .text "name")]]),
  ("structs", .array [
    .object [("name", .text "row"),
      ("fields", .array [.object [("name", .text "to"), ("type", .text "owner?")]])],
    .object [("name", .text "bare")]])]

/-- `tidyMembers` with its keys in another order and more keys among them, at every level. -/
def untidyMembers : Members := [
  ("structs", .array [
    .object [
      ("fields", .array [.object [("type", .text "owner?"), ("size", .null), ("name", .text "to")]]),
      ("name", .text "row")],
    .object [("abstract", .bool true), ("name", .text "bare")]]),
  ("actions", .array [.null]),
  ("types", .array [.object [("type", .text "name"), ("new_type_name", .text "owner")]]),
  ("version", .text "1")]

/-- The struct without fields is the fault of both. -/
theorem ofJson_of_reorders_untidyMembers :
    Reorders tidyMembers untidyMembers ∧
      ofJson (.object tidyMembers) = ofJson (.object untidyMembers) ∧
      ofJson (.object untidyMembers) =
        .error (.malformed (.structWithoutFields (some "bare"))) := by
  have owner : TypeAlias.Reorders
      [("new_type_name", .text "owner"), ("type", .text "name")]
      [("type", .text "name"), ("new_type_name", .text "owner")] := {
    distinct := ⟨by decide, by decide⟩
    name := (Members.agreesOn_iff ⟨by decide, by decide⟩).mpr (.some rfl)
    target := (Members.agreesOn_iff ⟨by decide, by decide⟩).mpr (.some rfl) }
  have receiver : Field.Reorders
      [("name", .text "to"), ("type", .text "owner?")]
      [("type", .text "owner?"), ("size", .null), ("name", .text "to")] := {
    distinct := ⟨by decide, by decide⟩
    name := (Members.agreesOn_iff ⟨by decide, by decide⟩).mpr (.some rfl)
    type := (Members.agreesOn_iff ⟨by decide, by decide⟩).mpr (.some rfl) }
  have row : Struct.Reorders
      [("name", .text "row"),
        ("fields", .array [.object [("name", .text "to"), ("type", .text "owner?")]])]
      [("fields", .array [
          .object [("type", .text "owner?"), ("size", .null), ("name", .text "to")]]),
        ("name", .text "row")] := {
    distinct := ⟨by decide, by decide⟩
    name := (Members.agreesOn_iff ⟨by decide, by decide⟩).mpr (.some rfl)
    base := (Members.agreesOn_iff ⟨by decide, by decide⟩).mpr .none
    fields := (Members.agreesOn_iff ⟨by decide, by decide⟩).mpr
      (.some (.array (.cons (.object receiver) .nil))) }
  have bare : Struct.Reorders
      [("name", .text "bare")]
      [("abstract", .bool true), ("name", .text "bare")] := {
    distinct := ⟨by decide, by decide⟩
    name := (Members.agreesOn_iff ⟨by decide, by decide⟩).mpr (.some rfl)
    base := (Members.agreesOn_iff ⟨by decide, by decide⟩).mpr .none
    fields := (Members.agreesOn_iff ⟨by decide, by decide⟩).mpr .none }
  have reordered : Reorders tidyMembers untidyMembers := {
    distinct := ⟨by decide, by decide⟩
    version := (Members.agreesOn_iff ⟨by decide, by decide⟩).mpr (.some rfl)
    aliases := (Members.agreesOn_iff ⟨by decide, by decide⟩).mpr
      (.some (.array (.cons (.object owner) .nil)))
    variants := (Members.agreesOn_iff ⟨by decide, by decide⟩).mpr .none
    structs := (Members.agreesOn_iff ⟨by decide, by decide⟩).mpr
      (.some (.array (.cons (.object row) (.cons (.object bare) .nil)))) }
  exact ⟨reordered, ofJson_of_reorders reordered, by rfl⟩

end Abi
end AbiTypings
