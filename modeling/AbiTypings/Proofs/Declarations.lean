import AbiTypings.Declaration
import AbiTypings.Proofs.Resolution

/-!
# Declarations of an ABI and their demands

Each alias, variant and struct has a declaration that depends on the style of the names only, and
demands in the order in which they are made: the name of an alias comes before its target and the
name of a struct before its fields, while the members of a variant come before its name. Emitting an
ABI in any scope is yielding its declarations under its demands (`emit_eq`), whether it has nulls
or not.
-/

namespace AbiTypings

/-- The identifier for a name; a null one is shown. -/
def NameStyle.identifier (style : NameStyle) (name : Option String) : String :=
  shown (name.map style.format)

/-- The demand of a name that may be null: only the identity takes a null. -/
def nameDemands (style : NameStyle) : Option String → List Demand
  | some _ => []
  | none => if style = .identity then [] else [.absent .words]

/-- The demand of a token that may be null. -/
def tokenDemands : Option String → List Demand :=
  entryDemands .ending fun token => [.refer (tokenElement token) token]

namespace TypeAlias

/-- The demands of an alias: those of its name, then those of its target. -/
def demands (style : NameStyle) (entry : TypeAlias) : List Demand :=
  nameDemands style entry.name ++ tokenDemands entry.target

/-- The declaration of an alias. -/
def declaration (style : NameStyle) (entry : TypeAlias) : Declaration :=
  .typeAlias (style.identifier entry.name) (shown (entry.target.map (tokenExpression style)))

end TypeAlias

/-- The member of a union for a token. -/
def taggedMember (style : NameStyle) (token : String) : TaggedMember :=
  ⟨token, tokenExpression style token⟩

namespace Variant

/-- The demands of a variant: those of its members, then those of its name. -/
def demands (style : NameStyle) (entry : Variant) : List Demand :=
  entry.memberList.flatMap tokenDemands ++ nameDemands style entry.name

/-- The declaration of a variant. -/
def declaration (style : NameStyle) (entry : Variant) : Declaration :=
  .union (style.identifier entry.name) (entry.memberList.reduceOption.map (taggedMember style))

end Variant

namespace Field

/-- The demand of a field: the one of its type without the optional mark. -/
def demands (entry : Field) : List Demand :=
  entryDemands .ending (fun token => [.refer (tokenElement token) (splitOptional token).1])
    entry.type

/-- The field of an interface for a field: the optional mark of the type stands at the name. -/
def declaration (style : NameStyle) (entry : Field) : InterfaceField where
  name := shown entry.name
  optional := entry.type.any fun token => (splitOptional token).2
  expression := shown (entry.type.map fun token => nameExpression style (splitOptional token).1)

end Field

namespace Struct

/-- The demands of a struct: those of its name, then those of its fields. Its base has none. -/
def demands (style : NameStyle) (entry : Struct) : List Demand :=
  nameDemands style entry.name ++ entry.fieldList.flatMap (entryDemands .type Field.demands)

/-- The declaration of a struct. -/
def declaration (style : NameStyle) (entry : Struct) : Declaration :=
  .interface (style.identifier entry.name) (entry.base?.map style.format)
    (entry.fieldList.reduceOption.map (Field.declaration style))

end Struct

namespace Abi

/-- The demands of an ABI: those of its aliases, then of its variants, then of its structs. -/
def demands (style : NameStyle) (abi : Abi) : List Demand :=
  abi.aliasList.flatMap (entryDemands .aliasName (TypeAlias.demands style))
    ++ abi.variantList.flatMap (entryDemands .members (Variant.demands style))
    ++ abi.structList.flatMap (entryDemands .name (Struct.demands style))

/-- The declarations of an ABI: its aliases, then its variants, then its structs. -/
def declarations (style : NameStyle) (abi : Abi) : List Declaration :=
  abi.aliasList.reduceOption.map (TypeAlias.declaration style)
    ++ abi.variantList.reduceOption.map (Variant.declaration style)
    ++ abi.structList.reduceOption.map (Struct.declaration style)

end Abi

/-! ## Emission -/

variable {scope : Scope}

/-- The identifier is yielded under the demand of the name. -/
theorem emitIdentifier_eq (name : Option String) :
    emitIdentifier scope name =
      scope.yield (nameDemands scope.style name) (scope.style.identifier name) := by
  cases name with
  | some name => rfl
  | none =>
    by_cases plain : scope.style = .identity
    · simp only [emitIdentifier, NameStyle.formatNullable, nameDemands, plain, ↓reduceIte]
      rfl
    · simp only [emitIdentifier, NameStyle.formatNullable, nameDemands, plain, ↓reduceIte]
      rfl

/-- The expression is yielded under the demand of the token. -/
theorem Scope.resolve_eq_yield (token : Option String) :
    scope.resolve token =
      scope.yield (tokenDemands token) (shown (token.map (tokenExpression scope.style))) := by
  cases token with
  | none => rfl
  | some token => exact scope.resolve_eq token

/-- An alias is emitted under its demands. -/
theorem TypeAlias.emit_eq (entry : TypeAlias) :
    TypeAlias.emit scope (some entry) =
      scope.yield (entry.demands scope.style) (entry.declaration scope.style) := by
  simp only [TypeAlias.emit, emitIdentifier_eq, Scope.resolve_eq_yield]
  exact Scope.yield_bind (Scope.yield_map _)

/-- A member is emitted under the demand of its token. -/
theorem emitMember_eq (token : String) :
    emitMember scope (some token) =
      scope.yield [.refer (tokenElement token) token] (taggedMember scope.style token) := by
  simp only [emitMember, Scope.resolve_eq]
  exact Scope.yield_map _

/-- A variant is emitted under its demands. -/
theorem Variant.emit_eq (entry : Variant) :
    Variant.emit scope (some entry) =
      scope.yield (entry.demands scope.style) (entry.declaration scope.style) := by
  have members : entry.memberList.mapM (emitMember scope) = _ :=
    Scope.mapM_yield .ending rfl emitMember_eq entry.memberList
  simp only [Variant.emit, members, emitIdentifier_eq]
  exact Scope.yield_bind (Scope.yield_map _)

/-- A field is emitted under its demand. -/
theorem Field.emit_eq (entry : Field) :
    Field.emit scope (some entry) =
      scope.yield entry.demands (entry.declaration scope.style) := by
  obtain ⟨name, type⟩ := entry
  cases type with
  | none => rfl
  | some token =>
    simp only [Field.emit, Scope.resolveName_eq]
    exact Scope.yield_map _

/-- A struct is emitted under its demands. -/
theorem Struct.emit_eq (entry : Struct) :
    Struct.emit scope (some entry) =
      scope.yield (entry.demands scope.style) (entry.declaration scope.style) := by
  have fields : entry.fieldList.mapM (Field.emit scope) = _ :=
    Scope.mapM_yield .type rfl Field.emit_eq entry.fieldList
  simp only [Struct.emit, emitIdentifier_eq, fields]
  exact Scope.yield_bind (Scope.yield_map _)

/-- An ABI is emitted under its demands. -/
theorem Abi.emit_eq (abi : Abi) (scope : Scope) :
    abi.emit scope =
      scope.yield (abi.demands scope.style) (abi.declarations scope.style) := by
  have aliases : abi.aliasList.mapM (TypeAlias.emit scope) = _ :=
    Scope.mapM_yield .aliasName rfl TypeAlias.emit_eq abi.aliasList
  have variants : abi.variantList.mapM (Variant.emit scope) = _ :=
    Scope.mapM_yield .members rfl Variant.emit_eq abi.variantList
  have structs : abi.structList.mapM (Struct.emit scope) = _ :=
    Scope.mapM_yield .name rfl Struct.emit_eq abi.structList
  simp only [Abi.emit, aliases, variants, structs]
  rw [Abi.demands, List.append_assoc]
  exact Scope.yield_bind (Scope.yield_bind (Scope.yield_map _))

end AbiTypings
