import AbiTypings.Proofs.LineRoles
import AbiTypings.Summary
import Mathlib.Algebra.Ring.Nat

/-!
# Summaries and lines

A summary forms the identifiers of an ABI before its declarations are emitted, in a traversal of its
own. An ABI has a summary exactly when it is emittable, and so a valid one has a summary exactly
when it has lenient lines. The summary then has one item for each declaration, under the identifier
that the declaration has, the built-ins of the block in its reverse order, and the number of lines
without those that the block, the banner and the namespace take.
-/

namespace AbiTypings

/-! ## Items -/

/-- The item for an alias. -/
def TypeAlias.item (style : NameStyle) (entry : TypeAlias) : SummaryItem where
  name := entry.name
  identifier := entry.name.map style.format
  kind := .type
  detail := entry.target

/-- The item for a variant. -/
def Variant.item (style : NameStyle) (entry : Variant) : SummaryItem where
  name := entry.name
  identifier := entry.name.map style.format
  kind := .variant
  detail := some (toString entry.memberList.length ++ " members")

/-- The item for a struct. -/
def Struct.item (style : NameStyle) (entry : Struct) : SummaryItem where
  name := entry.name
  identifier := entry.name.map style.format
  kind := .struct
  detail := some ((entry.base?.map ("extends " ++ ·)).getD "")

/-- The items of an ABI, kind by kind. -/
def Abi.items (style : NameStyle) (abi : Abi) : List SummaryItem :=
  abi.aliasList.reduceOption.map (TypeAlias.item style)
    ++ abi.variantList.reduceOption.map (Variant.item style)
    ++ abi.structList.reduceOption.map (Struct.item style)

/-- The summary of an ABI in which every name is formatted. -/
def Abi.resolvedSummary (style : NameStyle) (abi : Abi) : Summary where
  version := abi.version
  items := abi.items style
  builtins := (abi.resolvedTypings style).builtins
  lineCount := ((abi.declarations style).flatMap Declaration.lines).length

/-- An item with a name is the one for a declaration of its identifier. -/
def SummaryItem.Declares (item : SummaryItem) (declaration : Declaration) : Prop :=
  ∀ name, item.name = some name → item.identifier = some declaration.identifier

/-- A name that the style takes is formatted. -/
theorem NameStyle.formatNullable_of_takes {style : NameStyle} {name : Option String}
    (taken : style.takes name = true) :
    style.formatNullable name = .ok (name.map style.format) := by
  cases name with
  | some name => rfl
  | none =>
    have plain : style = .identity := by simpa [takes] using taken
    simp [formatNullable, plain]

/-- An emittable alias has its item. -/
theorem TypeAlias.summarize_eq {style : NameStyle} (entry : TypeAlias)
    (emittable : entry.isEmittable style = true) :
    TypeAlias.summarize style (some entry) = .ok (entry.item style) := by
  have named := NameStyle.formatNullable_of_takes (Bool.and_eq_true_iff.mp emittable).1
  rw [TypeAlias.summarize, named]
  rfl

/-- An emittable variant has its item. -/
theorem Variant.summarize_eq {style : NameStyle} (entry : Variant)
    (emittable : entry.isEmittable style = true) :
    Variant.summarize style (some entry) = .ok (entry.item style) := by
  have named := NameStyle.formatNullable_of_takes (Bool.and_eq_true_iff.mp emittable).2
  rw [Variant.summarize, named]
  rfl

/-- An emittable struct has its item. -/
theorem Struct.summarize_eq {style : NameStyle} (entry : Struct)
    (emittable : entry.isEmittable style = true) :
    Struct.summarize style (some entry) = .ok (entry.item style) := by
  have named := NameStyle.formatNullable_of_takes (Bool.and_eq_true_iff.mp emittable).1
  rw [Struct.summarize, named]
  rfl

namespace Abi

variable {abi : Abi} {style : NameStyle}

/-- An emittable ABI has its items. -/
theorem summaryItems_eq (emittable : abi.isEmittable style = true) :
    abi.summaryItems style = .ok (abi.items style) := by
  rw [isEmittable, Bool.and_eq_true, Bool.and_eq_true] at emittable
  obtain ⟨⟨aliases, variants⟩, structs⟩ := emittable
  rw [summaryItems, mapM_of_all_any TypeAlias.summarize_eq aliases,
    mapM_of_all_any Variant.summarize_eq variants, mapM_of_all_any Struct.summarize_eq structs]
  rfl

/-- An ABI has a summary exactly when it is emittable, and it is the resolved one. -/
theorem summarize_eq_ok_iff {summary : Summary} :
    abi.summarize style = .ok summary ↔
      abi.isEmittable style = true ∧ summary = abi.resolvedSummary style := by
  have returned (emittable : abi.isEmittable style = true) :
      abi.summarize style = .ok (abi.resolvedSummary style) := by
    rw [summarize, summaryItems_eq emittable, emit_eq_of_emittable emittable]
    rfl
  constructor
  · intro found
    have emittable : abi.isEmittable style = true := by
      rw [summarize] at found
      obtain ⟨_, -, found⟩ := bind_eq_ok_iff.mp found
      obtain ⟨_, emitted, -⟩ := bind_eq_ok_iff.mp found
      exact (emit_lenient_eq_ok_iff.mp emitted).1
    exact ⟨emittable, Except.ok.inj (found.symm.trans (returned emittable))⟩
  · rintro ⟨emittable, rfl⟩
    exact returned emittable

/-- The items of an ABI have the kinds and the names of its entries, in order. -/
theorem map_items (emittable : abi.isEmittable style = true) :
    (abi.items style).map (fun item => (item.kind, item.name)) =
      abi.aliasList.map (fun entry => (.type, entry.bind TypeAlias.name))
        ++ abi.variantList.map (fun entry => (.variant, entry.bind Variant.name))
        ++ abi.structList.map (fun entry => (.struct, entry.bind Struct.name)) := by
  rw [isEmittable, Bool.and_eq_true, Bool.and_eq_true] at emittable
  obtain ⟨⟨aliases, variants⟩, structs⟩ := emittable
  rw [← map_some_reduceOption aliases, ← map_some_reduceOption variants,
    ← map_some_reduceOption structs]
  simp only [items, List.map_append, List.map_map]
  rfl

/-- Each item is the one for the declaration at its place. -/
theorem forall₂_declares (abi : Abi) (style : NameStyle) :
    List.Forall₂ SummaryItem.Declares (abi.items style) (abi.declarations style) := by
  have declares {α : Type} {item : α → SummaryItem} {declaration : α → Declaration}
      (each : ∀ entry, (item entry).Declares (declaration entry)) (entries : List α) :
      List.Forall₂ SummaryItem.Declares (entries.map item) (entries.map declaration) := by
    rw [List.forall₂_map_left_iff, List.forall₂_map_right_iff, List.forall₂_same]
    exact fun entry _ => each entry
  have formatted {name : Option String} {given : String} (named : name = some given) :
      name.map style.format = some (style.identifier name) := by
    rw [named]
    rfl
  exact List.rel_append (List.rel_append
    (declares (fun _ _ named => formatted named) _) (declares (fun _ _ named => formatted named) _))
    (declares (fun _ _ named => formatted named) _)

end Abi

/-- The numbers of items of the kinds add up to the number of items. -/
theorem Summary.sum_count (summary : Summary) :
    (DeclarationKind.all.map summary.count).sum = summary.items.length := by
  have counted (items : List SummaryItem) :
      (DeclarationKind.all.map fun kind => items.countP (·.kind = kind)).sum = items.length := by
    induction items with
    | nil => rfl
    | cons item rest ih =>
      simp only [DeclarationKind.all, List.map_cons, List.map_nil, List.sum_cons, List.sum_nil,
        List.countP_cons, List.length_cons] at ih ⊢
      cases item.kind <;> simp <;> omega
  exact counted summary.items

/-! ## Lines -/

/-- A namespace takes two lines. -/
theorem Layout.length_enclose (layout : Layout) (lines : List String) :
    (layout.enclose lines).length =
      lines.length + if layout.enclosing.getD "" = "" then 0 else 2 := by
  by_cases absent : layout.enclosing.getD "" = ""
  · rw [enclose_of_none (layout.enclosing?_eq_none_iff.mpr absent), if_pos absent, Nat.add_zero]
  · have enclosed : layout.enclosing? ≠ none := mt layout.enclosing?_eq_none_iff.mp absent
    obtain ⟨name, found⟩ := Option.ne_none_iff_exists'.mp enclosed
    rw [if_neg absent, enclose, found]
    simp

/-- An emittable ABI has one line for each alias and each variant, and two lines for each struct
beside those of its fields. -/
theorem Abi.length_roles {abi : Abi} {style : NameStyle}
    (emittable : abi.isEmittable style = true) :
    abi.roles.length = abi.aliasList.length + abi.variantList.length +
      (abi.structList.reduceOption.map fun entry => 2 + entry.fieldList.length).sum := by
  rw [isEmittable, Bool.and_eq_true, Bool.and_eq_true] at emittable
  obtain ⟨⟨aliases, variants⟩, structs⟩ := emittable
  have each : ∀ entry ∈ abi.structList.reduceOption,
      entry.roles.length = 2 + entry.fieldList.length := by
    intro entry member
    obtain ⟨found, same, foundEmittable⟩ :=
      exists_of_all_any structs (List.reduceOption_mem_iff.mp member)
    obtain rfl := Option.some.inj same
    have fields := length_reduceOption_of_all_any (Bool.and_eq_true_iff.mp foundEmittable).2
    simp only [Struct.roles, List.length_cons, List.length_append, List.length_map, fields,
      List.length_nil]
    omega
  rw [roles, List.length_append, List.length_append, List.length_map, List.length_map,
    length_reduceOption_of_all_any aliases, length_reduceOption_of_all_any variants,
    List.length_flatMap, List.map_congr_left each]

/-! ## Agreement -/

/-- A summary of an ABI agrees with the lenient lines of the ABI under some options. -/
structure Summary.Describes (summary : Summary) (abi : Abi) (options : Options)
    (lines : List String) : Prop where
  /-- There is one item for each alias, variant and struct, in this order. -/
  entries : summary.items.map (fun item => (item.kind, item.name)) =
    abi.aliasList.map (fun entry => (.type, entry.bind TypeAlias.name))
      ++ abi.variantList.map (fun entry => (.variant, entry.bind Variant.name))
      ++ abi.structList.map (fun entry => (.struct, entry.bind Struct.name))
  /-- The numbers of items of the kinds add up. -/
  counts : (DeclarationKind.all.map summary.count).sum = summary.items.length
  /-- The lines of the declarations are counted. -/
  lineCount : summary.lineCount = abi.aliasList.length + abi.variantList.length +
    (abi.structList.reduceOption.map fun entry => 2 + entry.fieldList.length).sum
  /-- Beside them there are two lines at the top, the block and the lines of a namespace. -/
  length : lines.length = 2 + summary.builtins.size + summary.lineCount +
    if options.layout.enclosing.getD "" = "" then 0 else 2
  /-- The lines are those of the block, which read backwards has the built-ins in order, and of the
  emitted declarations, each of which is the one of the item at its place. -/
  declared : ∃ (block : List String) (declarations : List Declaration),
    block.reverse = summary.builtins.toList.map options.builtinLine ∧
    (abi.emit ⟨options.style, none⟩).outcome = .ok declarations ∧
    lines = banner abi.version :: "" ::
      options.layout.enclose (block ++ options.layout.lines declarations) ∧
    List.Forall₂ SummaryItem.Declares summary.items declarations

/-- The resolved summary of an emittable ABI describes its resolved typings. -/
theorem Abi.resolvedSummary_describes {abi : Abi} {options : Options}
    (emittable : abi.isEmittable options.style = true) :
    (abi.resolvedSummary options.style).Describes abi options
      ((abi.resolvedTypings options.style).lines options.layout) := by
  have counted : (abi.resolvedSummary options.style).lineCount = abi.roles.length := by
    rw [← abi.roles_declarations options.style, List.length_map]
    rfl
  have written : (abi.resolvedTypings options.style).lines options.layout =
      banner abi.version :: "" :: options.layout.enclose
        (options.layout.builtinLines options.style (abi.resolvedTypings options.style).builtins ++
          options.layout.lines (abi.declarations options.style)) := rfl
  rw [Layout.builtinLines_eq] at written
  constructor
  case entries => exact map_items emittable
  case counts => exact Summary.sum_count _
  case lineCount => rw [counted, length_roles emittable]
  case length =>
    rw [written, List.length_cons, List.length_cons, Layout.length_enclose, List.length_append,
      List.length_map, List.length_reverse, Layout.length_lines]
    simp only [resolvedSummary, BuiltinSet.size]
    omega
  case declared =>
    refine ⟨_, abi.declarations options.style, ?_, ?_, written, forall₂_declares abi _⟩
    · rw [← List.map_reverse, List.reverse_reverse]
      rfl
    · exact emit_lenient_eq_ok_iff.mpr ⟨emittable, rfl⟩

/-- A valid ABI has a summary exactly when it has lenient lines, and the summary describes the
lines. -/
theorem summarize_describes_transform {abi : Abi} (valid : abi.validate = .ok ())
    (options : Options) :
    ((∃ summary, abi.summarize options.style = .ok summary) ↔
      ∃ lines, abi.transform options false = .ok lines) ∧
    ∀ summary lines, abi.summarize options.style = .ok summary →
      abi.transform options false = .ok lines → summary.Describes abi options lines := by
  have emitted {lines : List String} : abi.transform options false = .ok lines ↔
      abi.isEmittable options.style = true ∧
        (abi.resolvedTypings options.style).lines options.layout = lines := by
    simp only [Abi.transform_eq_ok_iff, Abi.typings_lenient_eq_ok_iff valid, and_assoc,
      exists_and_left, exists_eq_left]
  simp only [Abi.summarize_eq_ok_iff, emitted]
  constructor
  · simp
  · rintro summary lines ⟨emittable, rfl⟩ ⟨-, rfl⟩
    exact Abi.resolvedSummary_describes emittable

/-- An ABI without a version, with an alias, a base and a field that have no name. -/
def unnamed : Abi where
  version := none
  aliases := some [some ⟨none, some "name?"⟩]
  variants := some [some ⟨some "nothing", some []⟩]
  structs := some [some ⟨some "row", none, some [some ⟨none, some "uint8[]"⟩]⟩]

/-- If names are kept the summary of `unnamed` counts five lines, and in a namespace there are four
more and two for the built-ins. -/
theorem summarize_describes_transform_unnamed :
    unnamed.validate = .ok () ∧
      ∃ summary lines, unnamed.summarize .identity = .ok summary ∧
        unnamed.transform ⟨.identity, { enclosing := some "Token" }⟩ false = .ok lines ∧
        summary.lineCount = 5 ∧ lines.length = 11 := by
  have valid : unnamed.validate = .ok () := rfl
  obtain ⟨returns, described⟩ :=
    summarize_describes_transform valid ⟨.identity, { enclosing := some "Token" }⟩
  have summarized : unnamed.summarize .identity = .ok (unnamed.resolvedSummary .identity) :=
    Abi.summarize_eq_ok_iff.mpr ⟨by decide, rfl⟩
  obtain ⟨lines, returned⟩ := returns.mp ⟨_, summarized⟩
  have counted := (described _ _ summarized returned).lineCount
  have length := (described _ _ summarized returned).length
  have builtins : (unnamed.resolvedSummary .identity).builtins.size = 2 := by decide
  have five : (unnamed.resolvedSummary .identity).lineCount = 5 := counted
  rw [builtins, five] at length
  exact ⟨valid, _, lines, summarized, returned, five, length⟩

end AbiTypings
