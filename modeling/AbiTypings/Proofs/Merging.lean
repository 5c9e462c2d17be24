import AbiTypings.Proofs.BuiltinBlock
import AbiTypings.Proofs.ValidOutcome

/-!
# Merging ABIs

Two ABIs are merged by joining their collections. What a token is resolved to and the built-in that
it records stay when more names are declared, and neither depends on what was resolved before. So
the merge of two ABIs with strict lines has strict lines: kind by kind it has the declarations of
the first ABI and those of the second, unchanged, and it uses the built-ins that either of them
uses.
-/

namespace AbiTypings

/-- The ABI that declares what two ABIs declare, the first one's entries of each kind before the
second one's. -/
def Abi.merge (left right : Abi) (version : Option String) : Abi where
  version := version
  aliases := some (left.aliasList ++ right.aliasList)
  variants := some (left.variantList ++ right.variantList)
  structs := some (left.structList ++ right.structList)

/-- Declarations by the kind of entry that they are for, and the built-ins that they use. -/
structure Parts where
  /-- The declarations of aliases. -/
  aliases : List Declaration
  /-- The declarations of variants. -/
  variants : List Declaration
  /-- The declarations of structs. -/
  structs : List Declaration
  /-- The built-ins used. -/
  used : BuiltinSet

/-- The parts of two ABIs, kind by kind. -/
def Parts.merge (first second : Parts) : Parts where
  aliases := first.aliases ++ second.aliases
  variants := first.variants ++ second.variants
  structs := first.structs ++ second.structs
  used := first.used ∪ second.used

/-- In strict mode an ABI is written as the given parts. -/
structure Abi.WritesStrictly (abi : Abi) (options : Options) (parts : Parts) : Prop where
  /-- The entries of each kind are emitted as the declarations of that kind, and the emission uses
  the built-ins. -/
  emitted : ∃ scope, abi.scope options.style true = .ok scope ∧
    (abi.aliasList.mapM (TypeAlias.emit scope)).outcome = .ok parts.aliases ∧
    (abi.variantList.mapM (Variant.emit scope)).outcome = .ok parts.variants ∧
    (abi.structList.mapM (Struct.emit scope)).outcome = .ok parts.structs ∧
    (abi.emit scope).used = parts.used
  /-- The lines are those of the built-ins and of the declarations. -/
  lines : abi.transform options true = .ok (banner abi.version :: "" :: options.layout.enclose
    (options.layout.builtinLines options.style parts.used ++
      options.layout.lines (parts.aliases ++ parts.variants ++ parts.structs)))

/-! ## More declared names -/

namespace Scope

variable {style : NameStyle} {names more : List String}

/-- An accepted element is accepted when more names are declared. -/
theorem accepts_of_subset (within : names ⊆ more) {element : String}
    (accepted : accepts ⟨style, some names⟩ element = true) :
    accepts ⟨style, some more⟩ element = true := by
  simp only [accepts, Bool.or_eq_true, List.contains_iff_mem] at accepted ⊢
  exact accepted.imp_left (Or.imp_left fun member => within member)

/-- A value that is yielded under a reference is yielded in the same way when more names are
declared. -/
theorem yield_refer_of_subset {α : Type} (within : names ⊆ more) {element token : String}
    {value last : α}
    (yielded : (yield ⟨style, some names⟩ [.refer element token] value).outcome = .ok last) :
    yield ⟨style, some more⟩ [.refer element token] value =
      yield ⟨style, some names⟩ [.refer element token] value := by
  have accepted : accepts ⟨style, some names⟩ element = true := by
    by_contra refused
    simp [outcome_yield, refusal?, refused] at yielded
  rw [yield_refer_of_accepts accepted, yield_refer_of_accepts (accepts_of_subset within accepted)]

/-- A token that is resolved is resolved in the same way when more names are declared. -/
theorem resolve_of_subset (within : names ⊆ more) {token : Option String} {expression : String}
    (resolved : (resolve ⟨style, some names⟩ token).outcome = .ok expression) :
    resolve ⟨style, some more⟩ token = resolve ⟨style, some names⟩ token := by
  cases token with
  | none => contradiction
  | some token =>
    rw [resolve_eq] at resolved ⊢
    rw [resolve_eq]
    exact yield_refer_of_subset within resolved

/-- A name that is resolved is resolved in the same way when more names are declared. -/
theorem resolveName_of_subset (within : names ⊆ more) {name : Option String} {expression : String}
    (resolved : (resolveName ⟨style, some names⟩ name).outcome = .ok expression) :
    resolveName ⟨style, some more⟩ name = resolveName ⟨style, some names⟩ name := by
  cases name with
  | none => contradiction
  | some name =>
    rw [resolveName_eq] at resolved ⊢
    rw [resolveName_eq]
    exact yield_refer_of_subset within resolved

end Scope

/-! ## Parts of an ABI -/

namespace Abi

variable {style : NameStyle} {options : Options} {abi left right : Abi} {version : Option String}

/-- The parts of an ABI in which every reference is resolved. -/
def parts (style : NameStyle) (abi : Abi) : Parts where
  aliases := abi.aliasList.reduceOption.map (TypeAlias.declaration style)
  variants := abi.variantList.reduceOption.map (Variant.declaration style)
  structs := abi.structList.reduceOption.map (Struct.declaration style)
  used := (abi.resolvedTypings style).builtins

/-- An ABI with strict lines is written as its parts. -/
theorem writesStrictly_parts {lines : List String}
    (returned : abi.transform options true = .ok lines) :
    abi.WritesStrictly options (abi.parts options.style) := by
  obtain ⟨typings, found, -⟩ := transform_eq_ok_iff.mp returned
  obtain ⟨-, emittable, known, rfl⟩ := typings_eq_ok_iff.mp found
  have met := List.findSome?_eq_none_iff.mp
    ((findSome?_refusal?_eq_none_iff emittable).mpr (known rfl))
  obtain ⟨⟨aliases, variants⟩, structs⟩ : (_ ∧ _) ∧ _ := by
    simpa only [demands, List.forall_mem_append] using met
  have resolver : abi.scope options.style true = .ok ⟨options.style, some abi.names⟩ :=
    scope_eq emittable true
  refine ⟨⟨_, resolver, ?_, ?_, ?_, ?_⟩, ?_⟩
  · rw [Scope.mapM_yield .aliasName rfl TypeAlias.emit_eq, Scope.yield_of_met aliases]
    rfl
  · rw [Scope.mapM_yield .members rfl Variant.emit_eq, Scope.yield_of_met variants]
    rfl
  · rw [Scope.mapM_yield .name rfl Struct.emit_eq, Scope.yield_of_met structs]
    rfl
  · rw [emit_eq, Scope.yield_of_met met]
    rfl
  · exact transform_eq_ok_iff.mpr ⟨_, found, rfl⟩

/-! ## The merge -/

/-- The tokens of a merge are those of the two ABIs. -/
theorem mem_tokens_merge {token : String} :
    token ∈ (left.merge right version).tokens ↔ token ∈ left.tokens ∨ token ∈ right.tokens := by
  simp only [tokens, merge, aliasList, variantList, structList, Option.getD_some,
    List.reduceOption_append, List.flatMap_append, List.mem_append]
  exact (or_congr_left or_or_or_comm).trans or_or_or_comm

/-- The names of a merge are those of the two ABIs. -/
theorem mem_names_merge {name : String} :
    name ∈ (left.merge right version).names ↔ name ∈ left.names ∨ name ∈ right.names := by
  simp only [names, merge, aliasList, variantList, structList, Option.getD_some,
    List.reduceOption_append, List.filterMap_append, List.mem_append]
  exact (or_congr_left or_or_or_comm).trans or_or_or_comm

/-- A merge knows what one of the two ABIs knows. -/
theorem knows_merge {element : String} (known : left.Knows element ∨ right.Knows element) :
    (left.merge right version).Knows element := by
  rcases known with (declared | other) | (declared | other)
  · exact .inl (mem_names_merge.mpr (.inl declared))
  · exact .inr other
  · exact .inl (mem_names_merge.mpr (.inr declared))
  · exact .inr other

/-- A merge is emittable when both ABIs are. -/
theorem isEmittable_merge (leftEmittable : left.isEmittable style = true)
    (rightEmittable : right.isEmittable style = true) :
    (left.merge right version).isEmittable style = true := by
  simp only [isEmittable, merge, aliasList, variantList, structList, Option.getD_some,
    List.all_append, Bool.and_eq_true] at leftEmittable rightEmittable ⊢
  obtain ⟨⟨leftAliases, leftVariants⟩, leftStructs⟩ := leftEmittable
  obtain ⟨⟨rightAliases, rightVariants⟩, rightStructs⟩ := rightEmittable
  exact ⟨⟨⟨leftAliases, rightAliases⟩, leftVariants, rightVariants⟩, leftStructs, rightStructs⟩

/-- A merge is valid when both ABIs are. -/
theorem validate_merge (leftValid : left.validate = .ok ()) (rightValid : right.validate = .ok ()) :
    (left.merge right version).validate = .ok () := by
  rw [validate, bind_eq_ok_iff] at leftValid rightValid ⊢
  obtain ⟨_, leftVariants, leftStructs⟩ := leftValid
  obtain ⟨_, rightVariants, rightStructs⟩ := rightValid
  refine ⟨(), ?_, ?_⟩
  · exact forM_eq_ok_iff.mpr (List.forall_mem_append.mpr
      ⟨forM_eq_ok_iff.mp leftVariants, forM_eq_ok_iff.mp rightVariants⟩)
  · exact forM_eq_ok_iff.mpr (List.forall_mem_append.mpr
      ⟨forM_eq_ok_iff.mp leftStructs, forM_eq_ok_iff.mp rightStructs⟩)

/-- The parts of a merge are those of the two ABIs. -/
theorem parts_merge :
    (left.merge right version).parts style = (left.parts style).merge (right.parts style) := by
  have used : ((left.merge right version).resolvedTypings style).builtins =
      (left.resolvedTypings style).builtins ∪ (right.resolvedTypings style).builtins := by
    apply BuiltinSet.ext
    intro builtin
    rw [Bool.eq_iff_iff, BuiltinSet.contains_union, Bool.or_eq_true, contains_builtins,
      contains_builtins, contains_builtins, ← exists_or]
    simp only [mem_tokens_merge, or_and_right]
  rw [parts, used]
  simp only [parts, Parts.merge, merge, aliasList, variantList, structList, Option.getD_some,
    List.reduceOption_append, List.map_append]

/-- The merge of two ABIs with strict typings has strict typings. -/
theorem exists_typings_merge {first second : Typings}
    (leftFound : left.typings style true = .ok first)
    (rightFound : right.typings style true = .ok second) :
    ∃ typings, (left.merge right version).typings style true = .ok typings := by
  obtain ⟨leftValid, leftEmittable, leftKnown, -⟩ := typings_eq_ok_iff.mp leftFound
  obtain ⟨rightValid, rightEmittable, rightKnown, -⟩ := typings_eq_ok_iff.mp rightFound
  refine ⟨_, typings_eq_ok_iff.mpr ⟨validate_merge leftValid rightValid,
    isEmittable_merge leftEmittable rightEmittable, fun strict token member => ?_, rfl⟩⟩
  rcases mem_tokens_merge.mp member with member | member
  · exact knows_merge (.inl (leftKnown strict token member))
  · exact knows_merge (.inr (rightKnown strict token member))

end Abi

/-- The merge of two ABIs that have strict lines has strict lines, written as the parts of the
first and those of the second, kind by kind. A token or a name that is resolved where some names
are declared is resolved in the same way, recording the same built-ins, where more are. -/
theorem transform_merge (options : Options) :
    (∀ (left right : Abi) (version : Option String) (leftLines rightLines : List String),
      left.transform options true = .ok leftLines →
      right.transform options true = .ok rightLines →
      ∃ first second : Parts,
        left.WritesStrictly options first ∧ right.WritesStrictly options second ∧
          (left.merge right version).WritesStrictly options (first.merge second)) ∧
    ∀ (names more : List String), names ⊆ more → ∀ (token : Option String) (expression : String),
      ((Scope.resolve ⟨options.style, some names⟩ token).outcome = .ok expression →
        Scope.resolve ⟨options.style, some more⟩ token =
          Scope.resolve ⟨options.style, some names⟩ token) ∧
      ((Scope.resolveName ⟨options.style, some names⟩ token).outcome = .ok expression →
        Scope.resolveName ⟨options.style, some more⟩ token =
          Scope.resolveName ⟨options.style, some names⟩ token) := by
  constructor
  · intro left right version leftLines rightLines leftReturned rightReturned
    obtain ⟨_, leftFound, -⟩ := Abi.transform_eq_ok_iff.mp leftReturned
    obtain ⟨_, rightFound, -⟩ := Abi.transform_eq_ok_iff.mp rightReturned
    obtain ⟨_, found⟩ := Abi.exists_typings_merge leftFound rightFound
    refine ⟨_, _, Abi.writesStrictly_parts leftReturned, Abi.writesStrictly_parts rightReturned, ?_⟩
    rw [← Abi.parts_merge]
    exact Abi.writesStrictly_parts (Abi.transform_eq_ok_iff.mpr ⟨_, found, rfl⟩)
  · intro names more within token expression
    exact ⟨Scope.resolve_of_subset within, Scope.resolveName_of_subset within⟩

/-- A struct with a field of a built-in type. -/
def ownership : Abi where
  structs := some [some ⟨some "row", some "", some [some ⟨some "owner", some "name"⟩]⟩]

/-- An alias for arrays of a built-in type and a variant with the alias as its member. -/
def quantities : Abi where
  aliases := some [some ⟨some "quantity", some "asset[]"⟩]
  variants := some [some ⟨some "value", some [some "quantity?"]⟩]

/-- The merge of `ownership` and `quantities` is written as the parts of both, and arrays of the
struct are resolved as they are in `ownership`. -/
theorem transform_merge_ownership_quantities :
    (∃ lines, ownership.transform {} true = .ok lines) ∧
      (∃ lines, quantities.transform {} true = .ok lines) ∧
      (∃ first second : Parts,
        ownership.WritesStrictly {} first ∧ quantities.WritesStrictly {} second ∧
          (ownership.merge quantities none).WritesStrictly {} (first.merge second)) ∧
      Scope.resolve ⟨.pascal, some ["quantity", "value", "row"]⟩ (some "row[]") =
        Scope.resolve ⟨.pascal, some ["row"]⟩ (some "row[]") := by
  have left : ownership.transform {} true = .ok _ := Abi.transform_eq_ok_iff.mpr
    ⟨_, Abi.typings_eq_ok_iff.mpr ⟨rfl, by decide, fun _ => by decide, rfl⟩, rfl⟩
  have right : quantities.transform {} true = .ok _ := Abi.transform_eq_ok_iff.mpr
    ⟨_, Abi.typings_eq_ok_iff.mpr ⟨rfl, by decide, fun _ => by decide, rfl⟩, rfl⟩
  obtain ⟨written, resolved⟩ := transform_merge {}
  have within : ["row"] ⊆ ["quantity", "value", "row"] := by simp
  exact ⟨⟨_, left⟩, ⟨_, right⟩, written _ _ none _ _ left right,
    (resolved _ _ within _ "Row[]").1 (by rfl)⟩

end AbiTypings
