import AbiTypings.Reference

/-!
# Declarations of the typings

Each alias, variant and struct of an ABI becomes one TypeScript declaration: an alias, a union of
tagged tuples or an interface. A declaration is kept as its parts; `lines` writes it, and says of
each line whether it opens the declaration, holds a field or closes it, so that the layout can
treat the lines by their role.
-/

namespace AbiTypings

/-- What a line is in its declaration. -/
inductive LineRole where
  /-- The line that names the declared type. -/
  | opening
  /-- A field of an interface. -/
  | field
  /-- The end of an interface. -/
  | closing
deriving DecidableEq, Repr

/-- A line of a declaration without layout. -/
structure Line where
  /-- What the line is in its declaration. -/
  role : LineRole
  /-- Its text. -/
  text : String
deriving DecidableEq, Repr

/-- A member of a union: the raw name as its tag and the expression of its values. -/
structure TaggedMember where
  /-- The tag. -/
  tag : String
  /-- The type of the tagged value. -/
  expression : String
deriving DecidableEq, Repr

/-- A field of an interface. -/
structure InterfaceField where
  /-- The name of the field. -/
  name : String
  /-- Whether the field may be absent. -/
  optional : Bool
  /-- The type of its values. -/
  expression : String
deriving DecidableEq, Repr

/-- A TypeScript declaration. -/
inductive Declaration where
  /-- Another name for a type. -/
  | typeAlias (identifier expression : String)
  /-- A union of tagged tuples. -/
  | union (identifier : String) (members : List TaggedMember)
  /-- An interface, possibly extending another one. -/
  | interface (identifier : String) (base : Option String) (fields : List InterfaceField)
deriving DecidableEq, Repr

namespace Declaration

/-- The declared identifier. -/
def identifier : Declaration → String
  | .typeAlias identifier _ => identifier
  | .union identifier _ => identifier
  | .interface identifier _ _ => identifier

/-- The text of a member of a union. -/
def memberText (member : TaggedMember) : String :=
  "['" ++ member.tag ++ "', " ++ member.expression ++ "]"

/-- The members with bars between them; a union without members is `never`. -/
def unionText : List TaggedMember → String
  | [] => "never"
  | members => String.intercalate " | " (members.map memberText)

/-- The text of a field of an interface. -/
def fieldText (field : InterfaceField) : String :=
  field.name ++ (if field.optional then "?" else "") ++ ": " ++ field.expression

/-- The part of an interface's first line that names its base. -/
def extendsText : Option String → String
  | none => ""
  | some base => " extends " ++ base

/-- The lines of a declaration. -/
def lines : Declaration → List Line
  | .typeAlias identifier expression => [⟨.opening, "type " ++ identifier ++ " = " ++ expression⟩]
  | .union identifier members =>
    [⟨.opening, "type " ++ identifier ++ " = " ++ unionText members⟩]
  | .interface identifier base fields =>
    ⟨.opening, "interface " ++ identifier ++ extendsText base ++ " \x7b"⟩
      :: (fields.map (⟨.field, fieldText ·⟩) ++ [⟨.closing, "\x7d"⟩])

end Declaration

/-! ## Writing the declarations of an ABI -/

/-- The identifier of a declaration for a name. -/
def emitIdentifier (scope : Scope) (name : Option String) : Emission String :=
  .ofExcept ((scope.style.formatNullable name).map shown)

/-- The alias for an entry: the name is formatted before the type is resolved. -/
def TypeAlias.emit (scope : Scope) : Option TypeAlias → Emission Declaration
  | none => .fail (.null .aliasName)
  | some entry => do
    let identifier ← emitIdentifier scope entry.name
    let expression ← scope.resolve entry.target
    return .typeAlias identifier expression

/-- A member of a variant, tagged with its raw name. -/
def emitMember (scope : Scope) (member : Option String) : Emission TaggedMember := do
  let expression ← scope.resolve member
  return ⟨shown member, expression⟩

/-- The union for a variant: the members are resolved before the name is formatted. -/
def Variant.emit (scope : Scope) : Option Variant → Emission Declaration
  | none => .fail (.null .members)
  | some entry => do
    let members ← entry.memberList.mapM (emitMember scope)
    let identifier ← emitIdentifier scope entry.name
    return .union identifier members

/-- A field of an interface: an optional type marks the name, and its expression has no
alternative. -/
def Field.emit (scope : Scope) : Option Field → Emission InterfaceField
  | none => .fail (.null .type)
  | some entry =>
    match entry.type with
    | none => .fail (.null .ending)
    | some token => do
      let (name, optional) := splitOptional token
      let expression ← scope.resolveName (some name)
      return ⟨shown entry.name, optional, expression⟩

/-- The name of the base of a struct, if it extends one. -/
def Struct.base? (struct : Struct) : Option String := struct.base.filter (· ≠ "")

/-- The interface for a struct; the name of a base is formatted and not resolved. -/
def Struct.emit (scope : Scope) : Option Struct → Emission Declaration
  | none => .fail (.null .name)
  | some entry => do
    let identifier ← emitIdentifier scope entry.name
    let fields ← entry.fieldList.mapM (Field.emit scope)
    return .interface identifier (entry.base?.map scope.style.format) fields

/-- The declarations of an ABI: its aliases, then its variants, then its structs. -/
def Abi.emit (abi : Abi) (scope : Scope) : Emission (List Declaration) := do
  let aliases ← abi.aliasList.mapM (TypeAlias.emit scope)
  let variants ← abi.variantList.mapM (Variant.emit scope)
  let structs ← abi.structList.mapM (Struct.emit scope)
  return aliases ++ variants ++ structs

/-- The alias that declares a built-in. -/
def Builtin.declaration (style : NameStyle) (builtin : Builtin) : Declaration :=
  .typeAlias (style.format builtin.spelling) builtin.target

end AbiTypings
