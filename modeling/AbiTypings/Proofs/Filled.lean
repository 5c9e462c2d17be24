import AbiTypings.Proofs.Emittable
import AbiTypings.Typings

/-!
# Filled ABIs

An ABI is filled when no name, no token and no entry is null; collections, the lists of members and
of fields and the base of a struct may be. A filled ABI is emittable in any style. The elements that
an ABI refers to are the elements of its tokens, in order. A strict scope of an emittable ABI knows
exactly the names that it declares, and a filled ABI is valid when every variant and every struct
has its list.
-/

namespace AbiTypings

/-! ## Names and tokens -/

/-- The token of an alias. -/
def TypeAlias.tokens (entry : TypeAlias) : List String := entry.target.toList

/-- The tokens of a variant. -/
def Variant.tokens (entry : Variant) : List String := entry.memberList.reduceOption

/-- The token of a field. -/
def Field.tokens (entry : Field) : List String := entry.type.toList

/-- The tokens of a struct. Its base is a name and not a token. -/
def Struct.tokens (entry : Struct) : List String :=
  entry.fieldList.reduceOption.flatMap Field.tokens

namespace Abi

/-- The tokens of an ABI in the order in which they are resolved. -/
def tokens (abi : Abi) : List String :=
  abi.aliasList.reduceOption.flatMap TypeAlias.tokens
    ++ abi.variantList.reduceOption.flatMap Variant.tokens
    ++ abi.structList.reduceOption.flatMap Struct.tokens

/-- The names that an ABI declares, in order. -/
def names (abi : Abi) : List String :=
  abi.aliasList.reduceOption.filterMap TypeAlias.name
    ++ abi.variantList.reduceOption.filterMap Variant.name
    ++ abi.structList.reduceOption.filterMap Struct.name

/-- An element that strict typings may refer to: a declared name, a built-in, `string` or `bool`. -/
def Knows (abi : Abi) (element : String) : Prop :=
  element ∈ abi.names ∨ (∃ builtin : Builtin, builtin.spelling = element) ∨
    element = "string" ∨ element = "bool"

instance (abi : Abi) (element : String) : Decidable (abi.Knows element) :=
  decidable_of_iff (element ∈ abi.names ∨ (Builtin.ofName? element).isSome = true ∨
    element = "string" ∨ element = "bool")
    (by simp only [Knows, Option.isSome_iff_exists, Builtin.ofName?_eq_some_iff])

end Abi

/-! ## Being filled -/

/-- Whether an alias has its name and its target. -/
def TypeAlias.isFilled (entry : TypeAlias) : Bool := entry.name.isSome && entry.target.isSome

/-- Whether a variant has its name and no null member. -/
def Variant.isFilled (entry : Variant) : Bool :=
  entry.name.isSome && entry.memberList.all Option.isSome

/-- Whether a field has its name and its type. -/
def Field.isFilled (entry : Field) : Bool := entry.name.isSome && entry.type.isSome

/-- Whether a struct has its name and filled fields only. -/
def Struct.isFilled (entry : Struct) : Bool :=
  entry.name.isSome && entry.fieldList.all (Option.any Field.isFilled)

namespace Abi

/-- Whether no name, no token and no entry of an ABI is null. -/
def isFilled (abi : Abi) : Bool :=
  abi.aliasList.all (Option.any TypeAlias.isFilled)
    && abi.variantList.all (Option.any Variant.isFilled)
    && abi.structList.all (Option.any Struct.isFilled)

/-- The first variant without a list of members. -/
def unlistedVariant? (abi : Abi) : Option Variant :=
  abi.variantList.reduceOption.find? (·.members.isNone)

/-- The first struct without a list of fields. -/
def unlistedStruct? (abi : Abi) : Option Struct :=
  abi.structList.reduceOption.find? (·.fields.isNone)

end Abi

section Entries

variable {α : Type} {entries : List (Option α)} {filled : α → Bool}

/-- A filled entry is not null. -/
theorem exists_of_all_any (whole : entries.all (Option.any filled) = true) {entry : Option α}
    (member : entry ∈ entries) : ∃ found, entry = some found ∧ filled found = true := by
  have entryFilled := List.all_eq_true.mp whole entry member
  obtain ⟨found, rfl, foundFilled⟩ := (Option.any_eq_true _ _).mp entryFilled
  exact ⟨found, rfl, foundFilled⟩

/-- Entries that are filled also pass any weaker check. -/
theorem all_any_of_imp {other : α → Bool} (whole : entries.all (Option.any filled) = true)
    (each : ∀ entry, filled entry = true → other entry = true) :
    entries.all (Option.any other) = true := by
  refine List.all_eq_true.mpr fun entry member => ?_
  obtain ⟨found, rfl, foundFilled⟩ := exists_of_all_any whole member
  exact each found foundFilled

/-- Filled entries are all there. -/
theorem map_some_reduceOption (whole : entries.all (Option.any filled) = true) :
    entries.reduceOption.map some = entries := by
  induction entries with
  | nil => rfl
  | cons entry rest ih =>
    rw [List.all_cons, Bool.and_eq_true] at whole
    obtain ⟨found, rfl, -⟩ := (Option.any_eq_true _ _).mp whole.1
    rw [List.reduceOption_cons_of_some, List.map_cons, ih whole.2]

/-- No filled entry is lost when nulls are dropped. -/
theorem length_reduceOption_of_all_any (whole : entries.all (Option.any filled) = true) :
    entries.reduceOption.length = entries.length := by
  have listed := congrArg List.length (map_some_reduceOption whole)
  rwa [List.length_map] at listed

/-- Filled entries are read in order when each of them is. -/
theorem mapM_of_all_any {β : Type} {read : Option α → Except Fault β} {value : α → β}
    (each : ∀ entry, filled entry = true → read (some entry) = .ok (value entry))
    (whole : entries.all (Option.any filled) = true) :
    entries.mapM read = .ok (entries.reduceOption.map value) := by
  induction entries with
  | nil => rfl
  | cons entry rest ih =>
    rw [List.all_cons, Bool.and_eq_true] at whole
    obtain ⟨found, rfl, foundFilled⟩ := (Option.any_eq_true _ _).mp whole.1
    rw [List.mapM_cons, each found foundFilled, ih whole.2, List.reduceOption_cons_of_some]
    rfl

/-- The elements that entries refer to are those of the entries that are not null. -/
theorem elements_entryDemands (need : Need) (demands : α → List Demand) :
    (entries.flatMap (entryDemands need demands)).filterMap Demand.element? =
      entries.reduceOption.flatMap fun entry => (demands entry).filterMap Demand.element? := by
  induction entries with
  | nil => rfl
  | cons entry rest ih =>
    rw [List.flatMap_cons, List.filterMap_append, ih]
    cases entry with
    | none => rfl
    | some entry => rw [List.reduceOption_cons_of_some, List.flatMap_cons]; rfl

end Entries

/-! ## Elements and demands -/

/-- The name of an entry refers to nothing. -/
theorem elements_nameDemands (style : NameStyle) (name : Option String) :
    (nameDemands style name).filterMap Demand.element? = [] := by
  cases name with
  | some name => rfl
  | none => by_cases plain : style = .identity <;> simp [nameDemands, plain, Demand.element?]

/-- A token refers to its element. -/
theorem elements_tokenDemands (token : Option String) :
    (tokenDemands token).filterMap Demand.element? = token.toList.map tokenElement := by
  cases token <;> rfl

/-- The elements that an ABI refers to are the elements of its tokens, in order. -/
theorem Abi.elements_demands (abi : Abi) (style : NameStyle) :
    (abi.demands style).filterMap Demand.element? = abi.tokens.map tokenElement := by
  have aliases (entry : TypeAlias) : (entry.demands style).filterMap Demand.element? =
      entry.tokens.map tokenElement := by
    rw [TypeAlias.demands, List.filterMap_append, elements_nameDemands, elements_tokenDemands]
    rfl
  have variants (entry : Variant) : (entry.demands style).filterMap Demand.element? =
      entry.tokens.map tokenElement := by
    rw [Variant.demands, List.filterMap_append, elements_nameDemands, List.append_nil,
      tokenDemands, elements_entryDemands, Variant.tokens, List.map_eq_flatMap]
    rfl
  have fields (entry : Field) : entry.demands.filterMap Demand.element? =
      entry.tokens.map tokenElement := by
    obtain ⟨name, type⟩ := entry
    cases type <;> rfl
  have structs (entry : Struct) : (entry.demands style).filterMap Demand.element? =
      entry.tokens.map tokenElement := by
    rw [Struct.demands, List.filterMap_append, elements_nameDemands, elements_entryDemands,
      Struct.tokens, List.map_flatMap]
    simp only [fields, List.nil_append]
  simp only [Abi.demands, Abi.tokens, List.filterMap_append, List.map_append, List.map_flatMap,
    elements_entryDemands, aliases, variants, structs]

/-- An element is referred to exactly when it is the element of a token. -/
theorem Abi.exists_demand_iff (abi : Abi) (style : NameStyle) {element : String} :
    (∃ demand ∈ abi.demands style, demand.element? = some element) ↔
      ∃ token ∈ abi.tokens, tokenElement token = element := by
  rw [← List.mem_filterMap, elements_demands, List.mem_map]

/-- A filled alias is emittable. -/
theorem TypeAlias.isEmittable_of_isFilled (style : NameStyle) {entry : TypeAlias}
    (filled : entry.isFilled = true) : entry.isEmittable style = true := by
  rw [isFilled, Bool.and_eq_true] at filled
  simp only [isEmittable, NameStyle.takes, filled.1, filled.2, Bool.true_or, Bool.and_self]

/-- A filled variant is emittable. -/
theorem Variant.isEmittable_of_isFilled (style : NameStyle) {entry : Variant}
    (filled : entry.isFilled = true) : entry.isEmittable style = true := by
  rw [isFilled, Bool.and_eq_true] at filled
  simp only [isEmittable, NameStyle.takes, filled.1, filled.2, Bool.true_or, Bool.and_self]

/-- A filled field is emittable. -/
theorem Field.isEmittable_of_isFilled {entry : Field} (filled : entry.isFilled = true) :
    entry.isEmittable = true :=
  (Bool.and_eq_true_iff.mp filled).2

/-- A filled struct is emittable. -/
theorem Struct.isEmittable_of_isFilled (style : NameStyle) {entry : Struct}
    (filled : entry.isFilled = true) : entry.isEmittable style = true := by
  rw [isFilled, Bool.and_eq_true] at filled
  have fields := all_any_of_imp filled.2 fun _ => Field.isEmittable_of_isFilled
  simp only [isEmittable, NameStyle.takes, filled.1, fields, Bool.true_or, Bool.and_self]

/-- A filled ABI is emittable in any style. -/
theorem Abi.isEmittable_of_isFilled {abi : Abi} (filled : abi.isFilled = true)
    (style : NameStyle) : abi.isEmittable style = true := by
  rw [isFilled, Bool.and_eq_true, Bool.and_eq_true] at filled
  obtain ⟨⟨aliases, variants⟩, structs⟩ := filled
  rw [isEmittable, Bool.and_eq_true, Bool.and_eq_true]
  exact ⟨⟨all_any_of_imp aliases fun _ => TypeAlias.isEmittable_of_isFilled style,
    all_any_of_imp variants fun _ => Variant.isEmittable_of_isFilled style⟩,
    all_any_of_imp structs fun _ => Struct.isEmittable_of_isFilled style⟩

/-! ## Scope and validity -/

/-- The names of filled entries are all there. -/
theorem map_name {α : Type} {entries : List (Option α)} {filled : α → Bool}
    {name : α → Option String} (whole : entries.all (Option.any filled) = true)
    (named : ∀ entry, filled entry = true → (name entry).isSome = true) :
    entries.reduceOption.map name = (entries.reduceOption.filterMap name).map some := by
  rw [List.map_filterMap_some_eq_filter_map_isSome, eq_comm, List.filter_eq_self]
  intro text member
  obtain ⟨entry, entryMember, rfl⟩ := List.mem_map.mp member
  obtain ⟨found, same, foundFilled⟩ :=
    exists_of_all_any whole (List.reduceOption_mem_iff.mp entryMember)
  exact Option.some.inj same ▸ named found foundFilled

/-- The names of entries that are not null are found in order. -/
theorem mapM_entryName {α : Type} {entries : List (Option α)} {filled : α → Bool}
    (need : Need) (name : α → Option String) (whole : entries.all (Option.any filled) = true) :
    entries.mapM (Abi.entryName need name) = .ok (entries.reduceOption.map name) :=
  mapM_of_all_any (fun _ _ => rfl) whole

/-- A filled alias has its name. -/
theorem TypeAlias.isSome_name (entry : TypeAlias) (filled : entry.isFilled = true) :
    entry.name.isSome = true :=
  (Bool.and_eq_true_iff.mp filled).1

/-- A filled variant has its name. -/
theorem Variant.isSome_name (entry : Variant) (filled : entry.isFilled = true) :
    entry.name.isSome = true :=
  (Bool.and_eq_true_iff.mp filled).1

/-- A filled struct has its name. -/
theorem Struct.isSome_name (entry : Struct) (filled : entry.isFilled = true) :
    entry.name.isSome = true :=
  (Bool.and_eq_true_iff.mp filled).1

/-- A strict scope of an emittable ABI knows its names and a lenient one knows none. -/
theorem Abi.scope_eq {abi : Abi} {style : NameStyle} (emittable : abi.isEmittable style = true)
    (strict : Bool) :
    abi.scope style strict = .ok ⟨style, if strict then some abi.names else none⟩ := by
  cases strict with
  | false => rfl
  | true =>
    rw [isEmittable, Bool.and_eq_true, Bool.and_eq_true] at emittable
    obtain ⟨⟨aliases, variants⟩, structs⟩ := emittable
    have declared : abi.declaredNames = .ok (abi.aliasList.reduceOption.map TypeAlias.name
        ++ abi.variantList.reduceOption.map Variant.name
        ++ abi.structList.reduceOption.map Struct.name) := by
      rw [declaredNames, mapM_entryName .aliasName _ aliases, mapM_entryName .name _ variants,
        mapM_entryName .name _ structs]
      rfl
    simp only [scope, declared, ↓reduceIte]
    change Except.ok (Scope.mk style (some (List.filterMap id _))) = _
    simp only [List.filterMap_append, List.filterMap_map, Function.id_comp, names]

/-- Checking entries that are not null fails with the first one that lacks something. -/
theorem forM_eq_find? {α : Type} {check : Option α → Except Fault Unit} {lacks : α → Bool}
    {fault : α → Fault} (checked : ∀ entry, check (some entry) =
      if lacks entry then .error (fault entry) else .ok ())
    {entries : List (Option α)} {filled : α → Bool}
    (whole : entries.all (Option.any filled) = true) :
    entries.forM check =
      (entries.reduceOption.find? lacks).elim (.ok ()) fun entry => .error (fault entry) := by
  induction entries with
  | nil => rfl
  | cons entry rest ih =>
    rw [List.all_cons, Bool.and_eq_true] at whole
    obtain ⟨found, rfl, -⟩ := (Option.any_eq_true _ _).mp whole.1
    change (check (some found) >>= fun _ => rest.forM check) = _
    rw [List.reduceOption_cons_of_some, checked, List.find?_cons]
    cases lacking : lacks found with
    | true => rfl
    | false => exact ih whole.2

/-- A filled ABI is valid unless a variant or else a struct lacks its list, and the first one of
these is the fault. -/
theorem Abi.validate_eq {abi : Abi} (filled : abi.isFilled = true) :
    abi.validate =
      match abi.unlistedVariant?, abi.unlistedStruct? with
      | some variant, _ => .error (.malformed (.variantWithoutMembers variant.name))
      | none, some struct => .error (.malformed (.structWithoutFields struct.name))
      | none, none => .ok () := by
  rw [isFilled, Bool.and_eq_true, Bool.and_eq_true] at filled
  obtain ⟨⟨-, variants⟩, structs⟩ := filled
  have variantCheck : abi.variantList.forM Variant.validate = _ :=
    forM_eq_find? (fun _ => rfl) variants
  have structCheck : abi.structList.forM Struct.validate = _ :=
    forM_eq_find? (fun _ => rfl) structs
  rw [validate, variantCheck, structCheck, unlistedVariant?, unlistedStruct?]
  cases abi.variantList.reduceOption.find? (·.members.isNone) with
  | some variant => rfl
  | none => cases abi.structList.reduceOption.find? (·.fields.isNone) <;> rfl

end AbiTypings
