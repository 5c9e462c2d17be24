import AbiTypings.Typings

/-!
# Summaries

A summary says what the typings of an ABI would contain without writing them: one item for each
alias, variant and struct, the built-ins used and the number of lines of the declarations. The
identifiers are formed first, and then the declarations are emitted in a scope that accepts every
name.
-/

namespace AbiTypings

/-- What an item of a summary declares. -/
inductive DeclarationKind where
  /-- An alias of a type. -/
  | type
  /-- A variant. -/
  | variant
  /-- A struct. -/
  | struct
deriving DecidableEq, Repr

namespace DeclarationKind

/-- The kinds in the order in which they are declared. -/
def all : List DeclarationKind := [.type, .variant, .struct]

/-- The word for a kind. -/
def word : DeclarationKind → String
  | .type => "type"
  | .variant => "variant"
  | .struct => "struct"

/-- The word for a kind at the start of a row. -/
def title : DeclarationKind → String
  | .type => "Type"
  | .variant => "Variant"
  | .struct => "Struct"

end DeclarationKind

/-- A declaration in a summary. -/
structure SummaryItem where
  /-- The name in the ABI. -/
  name : Option String
  /-- The identifier in the typings. -/
  identifier : Option String
  /-- What is declared. -/
  kind : DeclarationKind
  /-- The aliased type, the number of members or the base struct. -/
  detail : Option String
deriving DecidableEq, Repr

/-- What the typings of an ABI would contain. -/
structure Summary where
  /-- The version of the ABI. -/
  version : Option String
  /-- The declarations in order. -/
  items : List SummaryItem
  /-- The built-ins used. -/
  builtins : BuiltinSet
  /-- The number of lines of the declarations. -/
  lineCount : Nat
deriving DecidableEq, Repr

/-- The number of declarations of a kind. -/
def Summary.count (summary : Summary) (kind : DeclarationKind) : Nat :=
  summary.items.countP (·.kind = kind)

/-- The item for an alias, whose detail is the aliased type. -/
def TypeAlias.summarize (style : NameStyle) : Option TypeAlias → Except Fault SummaryItem
  | none => .error (.null .aliasName)
  | some entry => return ⟨entry.name, ← style.formatNullable entry.name, .type, entry.target⟩

/-- The item for a variant, whose detail is the number of members. -/
def Variant.summarize (style : NameStyle) : Option Variant → Except Fault SummaryItem
  | none => .error (.null .members)
  | some entry =>
    return ⟨entry.name, ← style.formatNullable entry.name, .variant,
      some (toString entry.memberList.length ++ " members")⟩

/-- The item for a struct, whose detail is the struct that it extends. -/
def Struct.summarize (style : NameStyle) : Option Struct → Except Fault SummaryItem
  | none => .error (.null .base)
  | some entry =>
    return ⟨entry.name, ← style.formatNullable entry.name, .struct,
      some ((entry.base?.map ("extends " ++ ·)).getD "")⟩

/-- The items of an ABI: its aliases, then its variants, then its structs. -/
def Abi.summaryItems (abi : Abi) (style : NameStyle) : Except Fault (List SummaryItem) := do
  let aliases ← abi.aliasList.mapM (TypeAlias.summarize style)
  let variants ← abi.variantList.mapM (Variant.summarize style)
  let structs ← abi.structList.mapM (Struct.summarize style)
  return aliases ++ variants ++ structs

/-- The summary of an ABI. -/
def Abi.summarize (abi : Abi) (style : NameStyle) : Except Fault Summary := do
  let items ← abi.summaryItems style
  let emission := abi.emit ⟨style, none⟩
  let declarations ← emission.outcome
  return {
    version := abi.version
    items
    builtins := emission.used
    lineCount := (declarations.flatMap Declaration.lines).length }

end AbiTypings
