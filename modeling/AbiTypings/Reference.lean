import AbiTypings.Emission
import AbiTypings.NameStyle

/-!
# References to types

A token of the ABI refers to a type: a name, followed by `[]` for each array around it, followed by
`?` if the value is optional. Its element is the name without these marks. A reference becomes a
TypeScript expression by the style of the names, and the built-in that is its element is recorded,
because the typings have to declare it. A few tokens have a fixed spelling instead and need no
declaration. Under a scope that knows the declared names, a reference to any other name is a fault.
-/

namespace AbiTypings

/-- Removes every `[]` from the front of a reversed name. -/
def stripArrays : List Char → List Char
  | ']' :: '[' :: rest => stripArrays rest
  | other => other

/-- The name of the element of arrays of any depth. -/
def elementName (name : String) : String :=
  String.ofList (stripArrays name.toList.reverse).reverse

/-- The token without the optional mark at its end, and whether it had one. -/
def splitOptional (token : String) : String × Bool :=
  match token.toList.reverse with
  | '?' :: rest => (String.ofList rest.reverse, true)
  | _ => (token, false)

/-- The tokens with a spelling of their own, and the spelling. -/
def fixedSpellings : List (String × String) := [
  ("string", "string"),
  ("string[]", "string[]"),
  ("bool", "boolean"),
  ("bool[]", "boolean[]")]

/-- The fixed spelling of a token. -/
def fixedSpelling? (token : String) : Option String := fixedSpellings.lookup token

/-- What is added to the expression of an optional value. -/
def absentAlternative : String := " | undefined"

/-- How references are resolved. -/
structure Scope where
  /-- The style of the identifiers. -/
  style : NameStyle
  /-- The names that the ABI declares; without them every name is accepted. -/
  declared : Option (List String) := none
deriving DecidableEq, Repr

namespace Scope

/-- Whether a reference may have this element. -/
def accepts (scope : Scope) (element : String) : Bool :=
  match scope.declared with
  | none => true
  | some names =>
    names.contains element || (fixedSpelling? element).isSome || (Builtin.ofName? element).isSome

/-- The expression for a name that is a part of a token. The built-in that is its element is
recorded before the scope is asked about the element. -/
def resolvePart (scope : Scope) (name token : String) : Emission String :=
  match Builtin.ofName? name with
  | some builtin => .record builtin (scope.style.format name)
  | none =>
    match fixedSpelling? name with
    | some spelling => .ok spelling
    | none => do
      let element := elementName name
      Emission.note (Builtin.ofName? element)
      if scope.accepts element then
        return scope.style.format name
      else
        Emission.fail (.unresolvable element token)

/-- The expression for a token; an optional one has the alternative `undefined`. -/
def resolve (scope : Scope) : Option String → Emission String
  | none => .fail (.null .ending)
  | some token =>
    match splitOptional token with
    | (name, true) => do return (← scope.resolvePart name token) ++ absentAlternative
    | (name, false) => scope.resolvePart name token

/-- The expression for a token whose optional mark has been removed. -/
def resolveName (scope : Scope) : Option String → Emission String
  | none => .fail (.null .ending)
  | some name => scope.resolvePart name name

end Scope

/-- The identifier for a name that may be null; only the identity style leaves a null. -/
def NameStyle.formatNullable (style : NameStyle) : Option String → Except Fault (Option String)
  | some name => .ok (some (style.format name))
  | none => if style = .identity then .ok none else .error (.null .words)

/-- A name at whose end stands another pair of brackets has the same element. -/
theorem elementName_append_brackets (name : String) :
    elementName (name ++ "[]") = elementName name := by
  simp [elementName, stripArrays]

/-- A token that ends in the optional mark is split before it. -/
theorem splitOptional_append_mark (name : String) :
    splitOptional (name ++ "?") = (name, true) := by
  simp [splitOptional]

/-- A token that does not end in the optional mark is kept. -/
theorem splitOptional_of_getLast?_ne {token : String} (plain : token.toList.getLast? ≠ some '?') :
    splitOptional token = (token, false) := by
  unfold splitOptional
  split
  · rename_i rest reversed
    rw [List.getLast?_eq_head?_reverse, reversed] at plain
    simp at plain
  · rfl

end AbiTypings
