import AbiTypings.Abi.Load
import AbiTypings.Declaration

/-!
# Typings

The typings of an ABI are its declarations after one alias for every built-in that they use, the
built-in registered last coming first. Their text starts with a banner and a blank line. The layout
decides on indentation, the `export` word and an enclosing namespace; it has no say in whether the
typings exist or in what they declare.
-/

namespace AbiTypings

/-- How typings are laid out. -/
structure Layout where
  /-- What stands in front of a line that is inside something. -/
  indent : String := "    "
  /-- Whether declarations are exported. -/
  exported : Bool := false
  /-- The namespace around the declarations; the empty text and null stand for none. -/
  enclosing : Option String := none
deriving DecidableEq, Repr

/-- What typings are asked for. -/
structure Options where
  /-- The style of the identifiers. -/
  style : NameStyle := .pascal
  /-- The layout. -/
  layout : Layout := {}
deriving DecidableEq, Repr

/-- What a text of typings is made from. -/
structure Typings where
  /-- The version of the ABI. -/
  version : Option String
  /-- The style of the identifiers. -/
  style : NameStyle
  /-- The built-ins used. -/
  builtins : BuiltinSet
  /-- The declarations of the ABI. -/
  declarations : List Declaration
deriving DecidableEq, Repr

/-- The version of the tool. -/
def toolVersion : String := "1.0.0"

/-- The first line of a text of typings. -/
def banner (version : Option String) : String :=
  "// Generated by abi2ts " ++ toolVersion ++ " - " ++ shown version

namespace Layout

/-- The namespace around the declarations, if there is one. -/
def enclosing? (layout : Layout) : Option String := layout.enclosing.filter (· ≠ "")

/-- A line of a declaration: an opening line may be exported and a field is indented. -/
def line (layout : Layout) (line : Line) : String :=
  match line.role with
  | .opening => (if layout.exported then "export " else "") ++ line.text
  | .field => layout.indent ++ line.text
  | .closing => line.text

/-- The lines of declarations. -/
def lines (layout : Layout) (declarations : List Declaration) : List String :=
  (declarations.flatMap Declaration.lines).map layout.line

/-- The lines inside the namespace, if there is one. -/
def enclose (layout : Layout) (lines : List String) : List String :=
  match layout.enclosing? with
  | none => lines
  | some name =>
    ("declare namespace " ++ name ++ " \x7b") :: lines.map (layout.indent ++ ·) ++ ["\x7d"]

/-- The lines of the aliases of built-ins, the one registered last first. -/
def builtinLines (layout : Layout) (style : NameStyle) (builtins : BuiltinSet) : List String :=
  layout.lines (builtins.toList.reverse.map (Builtin.declaration style))

/-- All lines: the banner, a blank line, and the aliases of built-ins before the given lines. -/
def assemble (layout : Layout) (style : NameStyle) (builtins : BuiltinSet)
    (version : Option String) (lines : List String) : List String :=
  banner version :: "" :: layout.enclose (layout.builtinLines style builtins ++ lines)

/-- A declaration takes as many lines in any layout. -/
theorem length_lines (layout : Layout) (declarations : List Declaration) :
    (layout.lines declarations).length = (declarations.flatMap Declaration.lines).length := by
  simp [lines]

/-- The lines of two lists of declarations follow each other. -/
theorem lines_append (layout : Layout) (left right : List Declaration) :
    layout.lines (left ++ right) = layout.lines left ++ layout.lines right := by
  simp [lines]

/-- Without a namespace the lines stand alone. -/
theorem enclose_of_none {layout : Layout} (bare : layout.enclosing? = none)
    (lines : List String) : layout.enclose lines = lines := by
  simp [enclose, bare]

end Layout

namespace Typings

/-- The number of lines of the declarations. -/
def lineCount (typings : Typings) : Nat := (typings.declarations.flatMap Declaration.lines).length

/-- The lines of the typings. -/
def lines (typings : Typings) (layout : Layout) : List String :=
  layout.assemble typings.style typings.builtins typings.version
    (layout.lines typings.declarations)

end Typings

/-- The text of lines, each ended by a line feed. -/
def textOfLines (lines : List String) : String := String.join (lines.map (· ++ "\n"))

namespace Abi

/-- The name of an entry, which must not be null. -/
def entryName {α : Type} (need : Need) (name : α → Option String) :
    Option α → Except Fault (Option String)
  | some entry => .ok (name entry)
  | none => .error (.null need)

/-- The names that an ABI declares, in order, repeated ones included. -/
def declaredNames (abi : Abi) : Except Fault (List (Option String)) := do
  let aliases ← abi.aliasList.mapM (entryName .aliasName TypeAlias.name)
  let variants ← abi.variantList.mapM (entryName .name Variant.name)
  let structs ← abi.structList.mapM (entryName .name Struct.name)
  return aliases ++ variants ++ structs

/-- The scope in which the references of an ABI are resolved: a strict one accepts declared names
only. -/
def scope (abi : Abi) (style : NameStyle) (strict : Bool) : Except Fault Scope :=
  if strict then return ⟨style, some ((← abi.declaredNames).filterMap id)⟩
  else return ⟨style, none⟩

/-- The typings of an ABI, once it is valid and every reference is resolved. -/
def typings (abi : Abi) (style : NameStyle) (strict : Bool) : Except Fault Typings := do
  abi.validate
  let scope ← abi.scope style strict
  let emission := abi.emit scope
  return ⟨abi.version, style, emission.used, ← emission.outcome⟩

/-- The lines of the typings of an ABI. -/
def transform (abi : Abi) (options : Options) (strict : Bool) : Except Fault (List String) := do
  return (← abi.typings options.style strict).lines options.layout

/-- The text of the typings of an ABI. -/
def render (abi : Abi) (options : Options) (strict : Bool) : Except Fault String := do
  return textOfLines (← abi.transform options strict)

end Abi
end AbiTypings
