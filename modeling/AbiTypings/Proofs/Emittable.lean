import AbiTypings.Proofs.Declarations

/-!
# Emittable ABIs

An ABI is emittable in a style when no null stands where its emission needs something: entries, the
fields of structs, targets, members and types of fields are there, and names are unless the style is
the identity. The names of fields, the base of a struct, the version and the collections may be
null. An ABI is emittable exactly when all that it demands is references.
-/

namespace AbiTypings

/-- Whether what is demanded is a reference and not something in the place of a null. -/
def Demand.isReference (demand : Demand) : Bool := demand.element?.isSome

/-- Whether a style makes an identifier of a name that may be null. -/
def NameStyle.takes (style : NameStyle) (name : Option String) : Bool :=
  name.isSome || style = .identity

/-- Whether an alias has a name that the style takes and its target. -/
def TypeAlias.isEmittable (style : NameStyle) (entry : TypeAlias) : Bool :=
  style.takes entry.name && entry.target.isSome

/-- Whether a variant has no null member and a name that the style takes. -/
def Variant.isEmittable (style : NameStyle) (entry : Variant) : Bool :=
  entry.memberList.all Option.isSome && style.takes entry.name

/-- Whether a field has its type. -/
def Field.isEmittable (entry : Field) : Bool := entry.type.isSome

/-- Whether a struct has a name that the style takes and emittable fields only. -/
def Struct.isEmittable (style : NameStyle) (entry : Struct) : Bool :=
  style.takes entry.name && entry.fieldList.all (Option.any Field.isEmittable)

/-- Whether no null stands where the emission of an ABI in a style needs something. -/
def Abi.isEmittable (style : NameStyle) (abi : Abi) : Bool :=
  abi.aliasList.all (Option.any (TypeAlias.isEmittable style))
    && abi.variantList.all (Option.any (Variant.isEmittable style))
    && abi.structList.all (Option.any (Struct.isEmittable style))

/-! ## References among demands -/

/-- A name demands nothing exactly when the style takes it. -/
theorem all_nameDemands (style : NameStyle) (name : Option String) :
    (nameDemands style name).all Demand.isReference = style.takes name := by
  cases name with
  | some name => rfl
  | none => cases style <;> rfl

/-- A token is demanded as a reference exactly when it is there. -/
theorem all_tokenDemands (token : Option String) :
    (tokenDemands token).all Demand.isReference = token.isSome := by
  cases token <;> rfl

/-- Entries demand references exactly when none is null and each does. -/
theorem all_entryDemands {α : Type} {demands : α → List Demand} {emittable : α → Bool}
    (each : ∀ entry, (demands entry).all Demand.isReference = emittable entry) (need : Need)
    (entries : List (Option α)) :
    (entries.flatMap (entryDemands need demands)).all Demand.isReference =
      entries.all (Option.any emittable) := by
  rw [List.all_flatMap]
  congr 1
  funext entry
  cases entry with
  | none => rfl
  | some entry => exact each entry

/-- An alias demands references exactly when it is emittable. -/
theorem TypeAlias.all_demands (style : NameStyle) (entry : TypeAlias) :
    (entry.demands style).all Demand.isReference = entry.isEmittable style := by
  rw [demands, List.all_append, all_nameDemands, all_tokenDemands, isEmittable]

/-- A variant demands references exactly when it is emittable. -/
theorem Variant.all_demands (style : NameStyle) (entry : Variant) :
    (entry.demands style).all Demand.isReference = entry.isEmittable style := by
  rw [demands, List.all_append, List.all_flatMap, all_nameDemands, isEmittable]
  simp only [all_tokenDemands]

/-- A field demands a reference exactly when it is emittable. -/
theorem Field.all_demands (entry : Field) :
    entry.demands.all Demand.isReference = entry.isEmittable := by
  obtain ⟨name, type⟩ := entry
  cases type <;> rfl

/-- A struct demands references exactly when it is emittable. -/
theorem Struct.all_demands (style : NameStyle) (entry : Struct) :
    (entry.demands style).all Demand.isReference = entry.isEmittable style := by
  rw [demands, List.all_append, all_nameDemands, all_entryDemands Field.all_demands, isEmittable]

/-- An ABI demands references exactly when it is emittable. -/
theorem Abi.all_demands (style : NameStyle) (abi : Abi) :
    (abi.demands style).all Demand.isReference = abi.isEmittable style := by
  rw [demands, List.all_append, List.all_append, all_entryDemands (TypeAlias.all_demands style),
    all_entryDemands (Variant.all_demands style), all_entryDemands (Struct.all_demands style),
    isEmittable]

/-- An emittable ABI demands references only. -/
theorem Abi.isReference_of_mem_demands {style : NameStyle} {abi : Abi}
    (emittable : abi.isEmittable style = true) :
    ∀ demand ∈ abi.demands style, demand.isReference = true := by
  rw [← abi.all_demands style] at emittable
  exact List.all_eq_true.mp emittable

/-- An ABI that is not emittable demands something in the place of a null. -/
theorem Abi.exists_absent_mem_demands {style : NameStyle} {abi : Abi}
    (lacking : abi.isEmittable style = false) : ∃ need, .absent need ∈ abi.demands style := by
  rw [← abi.all_demands style] at lacking
  obtain ⟨demand, member, noReference⟩ := List.all_eq_false.mp lacking
  cases demand with
  | absent need => exact ⟨need, member⟩
  | refer element token => exact absurd rfl noReference

end AbiTypings
