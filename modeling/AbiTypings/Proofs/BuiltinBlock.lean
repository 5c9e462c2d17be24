import AbiTypings.Proofs.Outcome

/-!
# The block of built-ins

The typings of an ABI start with one alias for each built-in that is the element of a token, the
built-in registered last first. Nothing else decides on the block: neither the order nor the number
of entries, members and fields, and no name or base.
-/

namespace AbiTypings

/-- The line of the alias of a built-in. -/
def Options.builtinLine (options : Options) (builtin : Builtin) : String :=
  (if options.layout.exported then "export " else "") ++ "type "
    ++ options.style.format builtin.spelling ++ " = " ++ builtin.target

namespace Abi

/-- Every alias of an ABI is one of another ABI, and every variant and struct has a counterpart
there with at least its members or fields. -/
structure Within (abi other : Abi) : Prop where
  /-- The aliases are aliases of the other one. -/
  aliases : abi.aliasList ⊆ other.aliasList
  /-- The members of a variant are members of a variant. -/
  variants : ∀ entry ∈ abi.variantList.reduceOption,
    ∃ counterpart ∈ other.variantList.reduceOption, entry.memberList ⊆ counterpart.memberList
  /-- The fields of a struct are fields of a struct. -/
  structs : ∀ entry ∈ abi.structList.reduceOption,
    ∃ counterpart ∈ other.structList.reduceOption, entry.fieldList ⊆ counterpart.fieldList

/-- Two ABIs differ at most in the order and the number of aliases, variants, members, structs and
fields, and in the names and bases of variants and structs. -/
def Rearranges (abi other : Abi) : Prop := abi.Within other ∧ other.Within abi

end Abi

/-! ## Order and members -/

/-- The members of a set stand in ascending positions of the registry. -/
theorem BuiltinSet.pairwise_toList (set : BuiltinSet) :
    set.toList.Pairwise fun earlier later => earlier.index < later.index := by
  have ascending : Builtin.registry.Pairwise fun earlier later => earlier.index < later.index := by
    decide
  exact ascending.filter set.contains

/-- The built-ins that an ABI uses are the elements of its tokens. -/
theorem Abi.contains_builtins {abi : Abi} {style : NameStyle} {builtin : Builtin} :
    (abi.resolvedTypings style).builtins.contains builtin = true ↔
      ∃ token ∈ abi.tokens, tokenElement token = builtin.spelling := by
  rw [resolvedTypings, Demand.contains_allBuiltins, exists_demand_iff]

/-- The lines of the aliases of built-ins, as texts. -/
theorem Layout.builtinLines_eq (options : Options) (builtins : BuiltinSet) :
    options.layout.builtinLines options.style builtins =
      builtins.toList.reverse.map options.builtinLine := by
  have line (builtin : Builtin) :
      (Builtin.declaration options.style builtin).lines.map options.layout.line =
        [options.builtinLine builtin] := by
    simp [Builtin.declaration, Declaration.lines, Layout.line, Options.builtinLine,
      String.append_assoc]
  rw [builtinLines, lines, List.flatMap_map, List.map_flatMap, List.map_eq_flatMap]
  simp only [line]

/-! ## Rearranging -/

/-- The tokens of an ABI within another one are tokens of that one. -/
theorem Abi.Within.tokens_subset {abi other : Abi} (within : abi.Within other) :
    abi.tokens ⊆ other.tokens := by
  intro token member
  rw [tokens, List.mem_append, List.mem_append] at member ⊢
  rcases member with (member | member) | member
  · obtain ⟨entry, entryMember, tokenMember⟩ := List.mem_flatMap.mp member
    have present := within.aliases (List.reduceOption_mem_iff.mp entryMember)
    exact .inl (.inl (List.mem_flatMap.mpr
      ⟨entry, List.reduceOption_mem_iff.mpr present, tokenMember⟩))
  · obtain ⟨entry, entryMember, tokenMember⟩ := List.mem_flatMap.mp member
    obtain ⟨counterpart, counterpartMember, members⟩ := within.variants entry entryMember
    have present := members (List.reduceOption_mem_iff.mp tokenMember)
    exact .inl (.inr (List.mem_flatMap.mpr
      ⟨counterpart, counterpartMember, List.reduceOption_mem_iff.mpr present⟩))
  · obtain ⟨entry, entryMember, tokenMember⟩ := List.mem_flatMap.mp member
    obtain ⟨counterpart, counterpartMember, fields⟩ := within.structs entry entryMember
    obtain ⟨field, fieldMember, typed⟩ := List.mem_flatMap.mp tokenMember
    have present := fields (List.reduceOption_mem_iff.mp fieldMember)
    exact .inr (List.mem_flatMap.mpr ⟨counterpart, counterpartMember,
      List.mem_flatMap.mpr ⟨field, List.reduceOption_mem_iff.mpr present, typed⟩⟩)

/-- Rearranged ABIs use the same built-ins. -/
theorem Abi.Rearranges.builtins_eq {abi other : Abi} (rearranged : abi.Rearranges other)
    (style : NameStyle) :
    (abi.resolvedTypings style).builtins = (other.resolvedTypings style).builtins := by
  obtain ⟨within, without⟩ := rearranged
  apply BuiltinSet.ext
  intro builtin
  rw [Bool.eq_iff_iff, contains_builtins, contains_builtins]
  constructor
  · rintro ⟨token, member, element⟩
    exact ⟨token, within.tokens_subset member, element⟩
  · rintro ⟨token, member, element⟩
    exact ⟨token, without.tokens_subset member, element⟩

/-! ## The block -/

/-- The lenient lines of a valid filled ABI are the block of its built-ins and the lines of the
declarations that are emitted. -/
theorem Abi.transform_lenient {abi : Abi} (filled : abi.isFilled = true)
    (valid : abi.validate = .ok ()) (options : Options) :
    ∃ declarations, (abi.emit ⟨options.style, none⟩).outcome = .ok declarations ∧
      abi.transform options false = .ok (banner abi.version :: "" :: options.layout.enclose
        ((abi.resolvedTypings options.style).builtins.toList.reverse.map options.builtinLine
          ++ options.layout.lines declarations)) := by
  refine ⟨abi.declarations options.style, ?_, ?_⟩
  · rw [emit_lenient filled]
  · rw [transform_eq, typings_lenient filled valid, ← Layout.builtinLines_eq]
    rfl

/-- The block of built-ins of a valid filled ABI, between the banner, or the opening of the
namespace, and the first emitted declaration: one alias for each built-in that is the element of a
token and no other, in strictly descending positions of the registry, which all hold their
built-in. Every rearranged ABI has the same block. -/
theorem transform_builtin_block {abi : Abi} (filled : abi.isFilled = true)
    (valid : abi.validate = .ok ()) (options : Options) :
    ∃ block : List Builtin,
      (∃ declarations, (abi.emit ⟨options.style, none⟩).outcome = .ok declarations ∧
        abi.transform options false = .ok (banner abi.version :: "" :: options.layout.enclose
          (block.map options.builtinLine ++ options.layout.lines declarations))) ∧
      (∀ builtin, builtin ∈ block ↔ ∃ token ∈ abi.tokens, tokenElement token = builtin.spelling) ∧
      block.Pairwise (fun earlier later => later.index < earlier.index) ∧
      (∀ builtin ∈ block, Builtin.registry[builtin.index]? = some builtin) ∧
      ∀ other : Abi, other.isFilled = true → other.validate = .ok () → abi.Rearranges other →
        ∃ declarations, (other.emit ⟨options.style, none⟩).outcome = .ok declarations ∧
          other.transform options false = .ok (banner other.version :: "" :: options.layout.enclose
            (block.map options.builtinLine ++ options.layout.lines declarations)) := by
  refine ⟨(abi.resolvedTypings options.style).builtins.toList.reverse,
    Abi.transform_lenient filled valid options, ?_, ?_, ?_, ?_⟩
  · intro builtin
    rw [List.mem_reverse, BuiltinSet.mem_toList, Abi.contains_builtins]
  · rw [List.pairwise_reverse]
    exact BuiltinSet.pairwise_toList _
  · intro builtin _
    exact builtin.registry_getElem?_index
  · intro other otherFilled otherValid rearranged
    rw [rearranged.builtins_eq]
    exact Abi.transform_lenient otherFilled otherValid options

/-- An ABI that uses built-ins directly, in arrays and optionally, and names two without using
them. -/
def mixedTokens : Abi where
  aliases := some [some ⟨some "account_name", some "name"⟩]
  variants := some [some ⟨some "bytes", some [some "uint8[]?", some "string[][]"]⟩]
  structs := some [some ⟨some "row", some "asset", some [some ⟨some "owner", some "name[]"⟩]⟩]

/-- The block of `mixedTokens` has the built-ins of its tokens and not those of its names. -/
theorem transform_builtin_block_mixedTokens :
    mixedTokens.isFilled = true ∧ mixedTokens.validate = .ok () ∧
      ∃ block : List Builtin,
        (∃ declarations, mixedTokens.transform {} false = .ok (banner (some "") :: "" ::
          (block.map ({} : Options).builtinLine ++ Layout.lines {} declarations))) ∧
        .uint8 ∈ block ∧ .name ∈ block ∧ .bytes ∉ block ∧ .asset ∉ block := by
  have filled : mixedTokens.isFilled = true := by decide
  have valid : mixedTokens.validate = .ok () := rfl
  obtain ⟨block, ⟨declarations, -, lines⟩, used, -, -, -⟩ :=
    transform_builtin_block filled valid {}
  refine ⟨filled, valid, block, ⟨declarations, lines⟩, ?_⟩
  simp only [used]
  decide

end AbiTypings
