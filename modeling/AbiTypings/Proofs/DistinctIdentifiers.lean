import AbiTypings.Proofs.Closure
import Mathlib.Data.List.Nodup

/-!
# Distinct identifiers

Different built-ins have different identifiers in every style, but names of an ABI are formatted
without regard to each other and to the built-ins: `account_name` and `accountName` have the same
identifier in pascal case, and an ABI may declare a name that is also a built-in. So the identifiers
that typings declare are distinct exactly when the names stay distinct when they are formatted and
none of them meets a built-in that a token uses.
-/

namespace AbiTypings

/-- Different built-ins have different identifiers in every style. -/
theorem format_spelling_injective {style : NameStyle} {left right : Builtin}
    (same : style.format left.spelling = style.format right.spelling) : left = right := by
  have distinct : (Builtin.registry.map fun builtin => style.format builtin.spelling).Nodup := by
    cases style <;> decide +kernel
  exact List.inj_on_of_nodup_map distinct left.mem_registry right.mem_registry same

/-- A built-in is used by an ABI if it is the element of a token. -/
def Abi.Uses (abi : Abi) (builtin : Builtin) : Prop :=
  ∃ token ∈ abi.tokens, tokenElement token = builtin.spelling

/-- The identifiers of the aliases of built-ins are distinct. -/
theorem nodup_identifiers_builtins (style : NameStyle) (builtins : BuiltinSet) :
    ((builtins.toList.reverse.map (Builtin.declaration style)).map
      Declaration.identifier).Nodup := by
  rw [List.map_map]
  refine List.Nodup.map_on ?_ (List.nodup_reverse.mpr builtins.toList_nodup)
  intro left _ right _ same
  exact format_spelling_injective same

namespace Abi

variable {abi : Abi}

/-- The identifiers that the typings of a filled ABI declare are distinct exactly when those of its
names are and none of these is the identifier of a built-in that is used. -/
theorem nodup_identifiers_declared_iff (filled : abi.isFilled = true) (style : NameStyle) :
    ((abi.resolvedTypings style).declared.map Declaration.identifier).Nodup ↔
      (abi.names.map style.format).Nodup ∧
        ∀ name ∈ abi.names, ∀ builtin, abi.Uses builtin →
          style.format name ≠ style.format builtin.spelling := by
  have declarations : (abi.resolvedTypings style).declarations.map Declaration.identifier =
      abi.names.map style.format := map_identifier_declarations filled style
  rw [Typings.declared, List.map_append, declarations, List.nodup_append]
  constructor
  · rintro ⟨-, names, apart⟩
    refine ⟨names, fun name member builtin used same => ?_⟩
    have listed : builtin ∈ (abi.resolvedTypings style).builtins.toList.reverse := by
      rw [List.mem_reverse, BuiltinSet.mem_toList]
      exact contains_builtins.mpr used
    exact apart _ (List.mem_map_of_mem (List.mem_map_of_mem listed)) _
      (List.mem_map_of_mem member) same.symm
  · rintro ⟨names, apart⟩
    refine ⟨nodup_identifiers_builtins style _, names, ?_⟩
    intro identifier ofBuiltin other ofName same
    obtain ⟨_, declared, rfl⟩ := List.mem_map.mp ofBuiltin
    obtain ⟨builtin, listed, rfl⟩ := List.mem_map.mp declared
    obtain ⟨name, member, rfl⟩ := List.mem_map.mp ofName
    rw [List.mem_reverse, BuiltinSet.mem_toList] at listed
    exact apart name member builtin (contains_builtins.mp listed) same.symm

end Abi

/-- Strict lines of a filled ABI with distinct names are those of its declarations. Their
identifiers are distinct exactly when no two names have the same identifier and none has that of a
built-in which is used. If names are kept, it is enough that no name is a built-in which is used. -/
theorem strict_identifiers_nodup_iff {abi : Abi} (filled : abi.isFilled = true)
    (distinct : abi.names.Nodup) {options : Options} {lines : List String}
    (returned : abi.transform options true = .ok lines) :
    ∃ typings, abi.typings options.style true = .ok typings ∧
      lines = banner abi.version :: "" :: options.layout.enclose
        (options.layout.lines typings.declared) ∧
      ((typings.declared.map Declaration.identifier).Nodup ↔
        (∀ name ∈ abi.names, ∀ other ∈ abi.names,
          options.style.format name = options.style.format other → name = other) ∧
        ∀ name ∈ abi.names, ∀ builtin, abi.Uses builtin →
          options.style.format name ≠ options.style.format builtin.spelling) ∧
      (options.style = .identity →
        ((typings.declared.map Declaration.identifier).Nodup ↔
          ∀ builtin, abi.Uses builtin → builtin.spelling ∉ abi.names)) := by
  obtain ⟨valid, known, rfl⟩ := (Abi.transform_strict_eq_ok_iff filled).mp returned
  have separate := Abi.nodup_identifiers_declared_iff filled options.style
  rw [List.nodup_map_iff_inj_on distinct] at separate
  refine ⟨abi.resolvedTypings options.style, ?_, Typings.lines_eq _ _, separate, ?_⟩
  · exact (Abi.typings_strict_eq_ok_iff filled).mpr ⟨valid, known, rfl⟩
  · intro kept
    rw [separate, kept]
    simp only [NameStyle.identity_format]
    constructor
    · rintro ⟨-, apart⟩ builtin used member
      exact apart _ member builtin used rfl
    · intro apart
      refine ⟨fun _ _ _ _ same => same, ?_⟩
      rintro name member builtin used rfl
      exact apart builtin used member

/-- A name for a built-in and a struct that refers to the name. -/
def namedOwner : Abi where
  aliases := some [some ⟨some "account_name", some "name"⟩]
  structs := some [some ⟨some "row", some "", some [some ⟨some "owner", some "account_name"⟩]⟩]

/-- The identifiers in the strict lines of `namedOwner` are distinct. -/
theorem strict_identifiers_nodup_namedOwner :
    namedOwner.isFilled = true ∧ namedOwner.names.Nodup ∧
      ∃ (lines : List String) (typings : Typings), namedOwner.transform {} true = .ok lines ∧
        lines = banner (some "") :: "" :: Layout.lines {} typings.declared ∧
        (typings.declared.map Declaration.identifier).Nodup := by
  have filled : namedOwner.isFilled = true := by decide
  have distinct : namedOwner.names.Nodup := by decide
  have returned : namedOwner.transform {} true = .ok _ :=
    (Abi.transform_strict_eq_ok_iff filled).mpr ⟨rfl, by decide, rfl⟩
  have apart : ∀ name ∈ namedOwner.names, ∀ builtin ∈ Builtin.registry,
      NameStyle.pascal.format name ≠ NameStyle.pascal.format builtin.spelling := by
    decide +kernel
  obtain ⟨typings, -, lines, separate, -⟩ := strict_identifiers_nodup_iff filled distinct returned
  refine ⟨filled, distinct, _, typings, returned, lines, separate.mpr ⟨by decide, ?_⟩⟩
  intro name member builtin _
  exact apart name member builtin builtin.mem_registry

/-- Two names that have one identifier in pascal case. -/
def sharedIdentifier : Abi where
  aliases := some [some ⟨some "account_name", some "bool"⟩, some ⟨some "accountName", some "string"⟩]

/-- A name that is also a built-in, and a struct that refers to it. -/
def redeclaredBuiltin : Abi where
  aliases := some [some ⟨some "name", some "string"⟩]
  structs := some [some ⟨some "row", some "", some [some ⟨some "owner", some "name"⟩]⟩]

/-- The names of `sharedIdentifier` and of `redeclaredBuiltin` are distinct, and in the strict lines
of both an identifier is declared twice. -/
theorem strict_identifiers_repeated :
    (sharedIdentifier.isFilled = true ∧ sharedIdentifier.names.Nodup ∧
      sharedIdentifier.transform {} true = .ok [banner (some ""), "",
        "type AccountName = boolean", "type AccountName = string"] ∧
      ∃ typings, sharedIdentifier.typings .pascal true = .ok typings ∧
        typings.declared.map Declaration.identifier = ["AccountName", "AccountName"]) ∧
    redeclaredBuiltin.isFilled = true ∧ redeclaredBuiltin.names.Nodup ∧
      redeclaredBuiltin.transform {} true = .ok [banner (some ""), "",
        "type Name = string", "type Name = string", "interface Row \x7b", "    owner: Name",
        "\x7d"] ∧
      ∃ typings, redeclaredBuiltin.typings .pascal true = .ok typings ∧
        typings.declared.map Declaration.identifier = ["Name", "Name", "Row"] := by
  refine ⟨⟨by decide, by decide, by rfl, sharedIdentifier.resolvedTypings .pascal, by rfl, by rfl⟩,
    by decide, by decide, by rfl, redeclaredBuiltin.resolvedTypings .pascal, by rfl, by rfl⟩

end AbiTypings
