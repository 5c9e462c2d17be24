import AbiTypings.Proofs.BuiltinBlock

/-!
# Identifiers that typings declare

The declarations of a filled ABI have its names as their identifiers, formatted, and the aliases of
built-ins have those of the built-ins. A token that strict typings accept refers to one or the
other, in arrays too, because a style keeps brackets: its expression is an identifier that is
declared. The base of a struct is formatted without being resolved, so nothing has to declare it; a
base that is only a built-in by name is declared exactly when a token uses that built-in.
-/

namespace AbiTypings

namespace Typings

/-- The declarations that the lines hold: an alias for each built-in used, then those of the
ABI. -/
def declared (typings : Typings) : List Declaration :=
  typings.builtins.toList.reverse.map (Builtin.declaration typings.style) ++ typings.declarations

/-- The lines are those of the declarations after the banner. -/
theorem lines_eq (typings : Typings) (layout : Layout) :
    typings.lines layout =
      banner typings.version :: "" :: layout.enclose (layout.lines typings.declared) := by
  rw [lines, Layout.assemble, Layout.builtinLines, declared, Layout.lines_append]

end Typings

/-! ## Identifiers -/

/-- The identifiers of filled entries are their names, formatted. -/
theorem map_identifier {α : Type} {entries : List (Option α)} {filled : α → Bool}
    {name : α → Option String} (style : NameStyle) (whole : entries.all (Option.any filled) = true)
    (named : ∀ entry, filled entry = true → (name entry).isSome = true) :
    entries.reduceOption.map (fun entry => style.identifier (name entry)) =
      (entries.reduceOption.filterMap name).map style.format := by
  calc entries.reduceOption.map (fun entry => style.identifier (name entry))
      = (entries.reduceOption.map name).map style.identifier := by
        rw [List.map_map]
        rfl
    _ = ((entries.reduceOption.filterMap name).map some).map style.identifier := by
        rw [map_name whole named]
    _ = (entries.reduceOption.filterMap name).map style.format := by
        rw [List.map_map]
        rfl

namespace Abi

variable {abi : Abi} {style : NameStyle}

/-- The declarations of a filled ABI have its names as their identifiers, formatted, in order. -/
theorem map_identifier_declarations (filled : abi.isFilled = true) (style : NameStyle) :
    (abi.declarations style).map Declaration.identifier = abi.names.map style.format := by
  rw [isFilled, Bool.and_eq_true, Bool.and_eq_true] at filled
  obtain ⟨⟨aliases, variants⟩, structs⟩ := filled
  rw [declarations, names, List.map_append, List.map_append, List.map_append, List.map_append,
    ← map_identifier style aliases TypeAlias.isSome_name,
    ← map_identifier style variants Variant.isSome_name,
    ← map_identifier style structs Struct.isSome_name, List.map_map, List.map_map, List.map_map]
  rfl

/-- An identifier is that of a declaration of a filled ABI exactly when it is that of one of its
names. -/
theorem exists_mem_declarations_iff (filled : abi.isFilled = true) {identifier : String} :
    (∃ declaration ∈ abi.declarations style, declaration.identifier = identifier) ↔
      ∃ name ∈ abi.names, style.format name = identifier := by
  rw [← List.mem_map, map_identifier_declarations filled, List.mem_map]

/-- The alias of a built-in is declared when the built-in is the element of a token. -/
theorem declaration_mem_declared {builtin : Builtin} {token : String} (member : token ∈ abi.tokens)
    (element : tokenElement token = builtin.spelling) :
    Builtin.declaration style builtin ∈ (abi.resolvedTypings style).declared := by
  have used : (abi.resolvedTypings style).builtins.contains builtin = true :=
    contains_builtins.mpr ⟨token, member, element⟩
  refine List.mem_append_left _ (List.mem_map_of_mem ?_)
  rw [List.mem_reverse, BuiltinSet.mem_toList]
  exact used

/-- An identifier is declared in the typings exactly when it is that of a name of the ABI or of a
built-in that is the element of a token. -/
theorem exists_mem_declared_iff (filled : abi.isFilled = true) {identifier : String} :
    (∃ declaration ∈ (abi.resolvedTypings style).declared,
        declaration.identifier = identifier) ↔
      (∃ name ∈ abi.names, style.format name = identifier) ∨
        ∃ builtin : Builtin, (∃ token ∈ abi.tokens, tokenElement token = builtin.spelling) ∧
          style.format builtin.spelling = identifier := by
  rw [← exists_mem_declarations_iff filled]
  constructor
  · rintro ⟨declaration, member, rfl⟩
    rcases List.mem_append.mp member with used | emitted
    · obtain ⟨builtin, builtinMember, rfl⟩ := List.mem_map.mp used
      rw [List.mem_reverse, BuiltinSet.mem_toList] at builtinMember
      exact .inr ⟨builtin, contains_builtins.mp builtinMember, rfl⟩
    · exact .inl ⟨declaration, emitted, rfl⟩
  · rintro (⟨declaration, emitted, rfl⟩ | ⟨builtin, ⟨token, member, element⟩, rfl⟩)
    · exact ⟨declaration, List.mem_append_right _ emitted, rfl⟩
    · exact ⟨_, declaration_mem_declared member element, rfl⟩

/-- The element of a token is declared, formatted, when it is known and neither `string` nor
`bool`. -/
theorem exists_mem_declared_of_knows (filled : abi.isFilled = true) {token : String}
    (member : token ∈ abi.tokens) (known : abi.Knows (tokenElement token))
    (noString : tokenElement token ≠ "string") (noBool : tokenElement token ≠ "bool") :
    ∃ declaration ∈ (abi.resolvedTypings style).declared,
      declaration.identifier = style.format (tokenElement token) := by
  rw [exists_mem_declared_iff filled]
  rcases known with named | ⟨builtin, element⟩ | isString | isBool
  · exact .inl ⟨_, named, rfl⟩
  · exact .inr ⟨builtin, ⟨token, member, element.symm⟩, congrArg style.format element⟩
  · exact absurd isString noString
  · exact absurd isBool noBool

end Abi

/-! ## References of tokens -/

/-- The typings write the element of a token as an identifier that they declare. -/
structure Typings.Covers (typings : Typings) (token : String) : Prop where
  /-- The expression is the element, formatted, before the brackets of the token; where an optional
  value has an alternative, that comes last. -/
  expression : ∃ depth, (splitOptional token).1 = tokenElement token ++ brackets depth ∧
    nameExpression typings.style (splitOptional token).1 =
      typings.style.format (tokenElement token) ++ brackets depth ∧
    tokenExpression typings.style token =
      typings.style.format (tokenElement token) ++ brackets depth ++
        if (splitOptional token).2 then " | undefined" else ""
  /-- A declaration has the formatted element as its identifier. -/
  declared : ∃ declaration ∈ typings.declared,
    declaration.identifier = typings.style.format (tokenElement token)
  /-- A built-in that is the element has its alias. -/
  aliased : ∀ builtin : Builtin, tokenElement token = builtin.spelling →
    Builtin.declaration typings.style builtin ∈ typings.declared

/-- The resolved typings of a filled ABI cover each of its tokens that they know and that is not one
of `string` or `bool`. -/
theorem Abi.covers_resolvedTypings {abi : Abi} {style : NameStyle} (filled : abi.isFilled = true)
    {token : String} (member : token ∈ abi.tokens) (known : abi.Knows (tokenElement token))
    (noString : tokenElement token ≠ "string") (noBool : tokenElement token ≠ "bool") :
    (abi.resolvedTypings style).Covers token where
  expression := by
    obtain ⟨depth, split, expression⟩ := exists_nameExpression noString noBool
    exact ⟨depth, split, expression style, congrArg (· ++ _) (expression style)⟩
  declared := exists_mem_declared_of_knows filled member known noString noBool
  aliased := fun _ element => declaration_mem_declared member element

/-- Strict lines of a filled ABI are those of its declarations, each token at its place written as
its expression, and every token whose element is neither `string` nor `bool` is covered. -/
theorem strict_references_declared {abi : Abi} (filled : abi.isFilled = true) {options : Options}
    {lines : List String} (returned : abi.transform options true = .ok lines) :
    ∃ typings, abi.typings options.style true = .ok typings ∧ typings.style = options.style ∧
      lines = banner abi.version :: "" :: options.layout.enclose
        (options.layout.lines typings.declared) ∧
      typings.declarations = abi.declarations options.style ∧
      ∀ token ∈ abi.tokens, tokenElement token ≠ "string" → tokenElement token ≠ "bool" →
        typings.Covers token := by
  obtain ⟨valid, known, rfl⟩ := (Abi.transform_strict_eq_ok_iff filled).mp returned
  refine ⟨abi.resolvedTypings options.style, ?_, rfl, Typings.lines_eq _ _, rfl, ?_⟩
  · exact (Abi.typings_strict_eq_ok_iff filled).mpr ⟨valid, known, rfl⟩
  · intro token member noString noBool
    exact Abi.covers_resolvedTypings filled member (known token member) noString noBool

/-- An ABI that refers to one of its names and to a built-in, in arrays and optionally. -/
def closedTokens : Abi where
  aliases := some [some ⟨some "account_list", some "name[]?"⟩]
  structs := some [some ⟨some "row", some "", some [some ⟨some "owners", some "account_list[]"⟩]⟩]

/-- The built-in and the name that `closedTokens` refers to are declared under the identifiers that
the references use. -/
theorem strict_references_declared_closedTokens :
    ∃ (lines : List String) (typings : Typings), closedTokens.transform {} true = .ok lines ∧
      lines = banner (some "") :: "" :: Layout.lines {} typings.declared ∧
      Builtin.declaration .pascal .name ∈ typings.declared ∧
      ∃ declaration ∈ typings.declared, declaration.identifier = "AccountList" := by
  have filled : closedTokens.isFilled = true := by decide
  have returned : closedTokens.transform {} true = .ok _ :=
    (Abi.transform_strict_eq_ok_iff filled).mpr ⟨rfl, by decide, rfl⟩
  obtain ⟨typings, -, styled, lines, -, covered⟩ := strict_references_declared filled returned
  have builtin := (covered "name[]?" (by decide) (by decide) (by decide)).aliased .name (by decide)
  have declared := (covered "account_list[]" (by decide) (by decide) (by decide)).declared
  rw [styled] at builtin declared
  exact ⟨_, typings, returned, lines, builtin, declared⟩

/-! ## Bases of structs -/

/-- The interface of a struct extends the formatted base. -/
theorem Abi.interface_mem_declarations {abi : Abi} {style : NameStyle} {entry : Struct}
    {base : String} (member : some entry ∈ abi.structList) (extended : entry.base? = some base) :
    .interface (style.identifier entry.name) (some (style.format base))
      (entry.fieldList.reduceOption.map (Field.declaration style)) ∈ abi.declarations style := by
  refine List.mem_append_right _ (List.mem_map.mpr ⟨entry, ?_, ?_⟩)
  · exact List.reduceOption_mem_iff.mpr member
  · rw [Struct.declaration, extended]
    rfl

/-- Strict lines of a filled ABI are those of its declarations. The interface of a struct with a
base extends the formatted base, and this identifier is declared exactly when it is that of a name
of the ABI or of a built-in that is the element of a token. -/
theorem strict_base_declared_iff {abi : Abi} (filled : abi.isFilled = true) {options : Options}
    {lines : List String} (returned : abi.transform options true = .ok lines) :
    ∃ typings, abi.typings options.style true = .ok typings ∧
      lines = banner abi.version :: "" :: options.layout.enclose
        (options.layout.lines typings.declared) ∧
      ∀ entry base, some entry ∈ abi.structList → entry.base? = some base →
        .interface (options.style.identifier entry.name) (some (options.style.format base))
          (entry.fieldList.reduceOption.map (Field.declaration options.style))
            ∈ typings.declarations ∧
        ((∃ declaration ∈ typings.declared,
            declaration.identifier = options.style.format base) ↔
          (∃ name ∈ abi.names, options.style.format name = options.style.format base) ∨
            ∃ builtin : Builtin, (∃ token ∈ abi.tokens, tokenElement token = builtin.spelling) ∧
              options.style.format builtin.spelling = options.style.format base) := by
  obtain ⟨valid, known, rfl⟩ := (Abi.transform_strict_eq_ok_iff filled).mp returned
  refine ⟨abi.resolvedTypings options.style, ?_, Typings.lines_eq _ _, ?_⟩
  · exact (Abi.typings_strict_eq_ok_iff filled).mpr ⟨valid, known, rfl⟩
  · intro entry base member extended
    exact ⟨Abi.interface_mem_declarations member extended, Abi.exists_mem_declared_iff filled⟩

/-- A struct whose base is a built-in that its field uses. -/
def usedBase : Abi where
  structs := some [some ⟨some "my_asset", some "asset", some [some ⟨some "all", some "asset[]"⟩]⟩]

/-- The base of `usedBase` is declared. -/
theorem strict_base_declared_usedBase :
    ∃ (lines : List String) (typings : Typings), usedBase.transform {} true = .ok lines ∧
      lines = banner (some "") :: "" :: Layout.lines {} typings.declared ∧
      ∃ declaration ∈ typings.declared, declaration.identifier = "Asset" := by
  have filled : usedBase.isFilled = true := by decide
  have returned : usedBase.transform {} true = .ok _ :=
    (Abi.transform_strict_eq_ok_iff filled).mpr ⟨rfl, by decide, rfl⟩
  obtain ⟨typings, -, lines, based⟩ := strict_base_declared_iff filled returned
  obtain ⟨-, declared⟩ := based _ "asset" (List.mem_singleton_self _) (by decide)
  have used : ∃ token ∈ usedBase.tokens, tokenElement token = Builtin.asset.spelling := by decide
  exact ⟨_, typings, returned, lines, declared.mpr (.inr ⟨.asset, used, rfl⟩)⟩

/-- A struct whose base is a built-in that no token uses. -/
def unusedBase : Abi where
  structs := some [some ⟨some "my_asset", some "asset", some []⟩]

/-- The base of `unusedBase` is extended in strict lines and declared nowhere in them. -/
theorem strict_base_undeclared_unusedBase :
    unusedBase.isFilled = true ∧
      unusedBase.transform {} true =
        .ok (banner (some "") :: "" :: Layout.lines {} [.interface "MyAsset" (some "Asset") []]) ∧
      ∃ typings, unusedBase.typings .pascal true = .ok typings ∧
        typings.declared = [.interface "MyAsset" (some "Asset") []] ∧
        ¬ ∃ declaration ∈ typings.declared, declaration.identifier = "Asset" := by
  refine ⟨by decide, by rfl, unusedBase.resolvedTypings .pascal, by rfl, by decide, by decide⟩

end AbiTypings
