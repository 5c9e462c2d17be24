import AbiTypings.Proofs.Demand
import AbiTypings.Proofs.Element

/-!
# Resolution of tokens

Resolving a token meets a single demand, for the element of the token, and yields an expression that
depends on the style and the token only. Which of the three ways the resolution goes, a built-in, a
spelling of its own or the formatted name, decides on the expression alone: on each of them the
element that is asked for and the built-in that is recorded are the ones of the token.
-/

namespace AbiTypings

/-- The element of a token: the name without its optional mark and its brackets. -/
def tokenElement (token : String) : String := elementName (splitOptional token).1

/-- The expression for a name: its own spelling, if it has one, or the formatted name. -/
def nameExpression (style : NameStyle) (name : String) : String :=
  (fixedSpelling? name).getD (style.format name)

/-- The expression for a token; an optional one has the alternative `undefined`. -/
def tokenExpression (style : NameStyle) (token : String) : String :=
  nameExpression style (splitOptional token).1
    ++ if (splitOptional token).2 then absentAlternative else ""

/-- The expression for a name whose element is neither `string` nor `bool` is its element,
formatted, before its brackets. -/
theorem exists_nameExpression {name : String} (noString : elementName name ≠ "string")
    (noBool : elementName name ≠ "bool") :
    ∃ depth, name = elementName name ++ brackets depth ∧
      ∀ style, nameExpression style name = style.format (elementName name) ++ brackets depth := by
  obtain ⟨depth, split⟩ := exists_elementName_append name
  refine ⟨depth, split, fun style => ?_⟩
  have noSpelling : fixedSpelling? name = none := by
    cases found : fixedSpelling? name with
    | none => rfl
    | some spelling =>
      rcases elementName_of_fixedSpelling? found with element | element
      · exact absurd element noString
      · exact absurd element noBool
  rw [nameExpression, noSpelling, Option.getD_none]
  exact (congrArg style.format split).trans (format_append_brackets style _ depth)

namespace Scope

/-- A scope that knows the declared names accepts a reference to one of them, to a built-in and to
`string` and `bool`. -/
theorem accepts_elementName {scope : Scope} {names : List String}
    (declared : scope.declared = some names) (name : String) :
    scope.accepts (elementName name) = true ↔
      elementName name ∈ names ∨ (∃ builtin : Builtin, builtin.spelling = elementName name) ∨
        elementName name = "string" ∨ elementName name = "bool" := by
  have builtin : (Builtin.ofName? (elementName name)).isSome ↔
      ∃ builtin : Builtin, builtin.spelling = elementName name := by
    simp only [Option.isSome_iff_exists, Builtin.ofName?_eq_some_iff]
  simp only [accepts, declared, Bool.or_eq_true, List.contains_iff_mem, builtin,
    fixedSpelling?_elementName]
  rw [or_assoc, or_comm (a := elementName name = "string" ∨ _)]

/-- The name of a built-in is accepted in any scope. -/
theorem accepts_spelling (scope : Scope) (builtin : Builtin) :
    scope.accepts builtin.spelling = true := by
  cases declared : scope.declared <;> simp [accepts, declared, Builtin.ofName?_spelling]

/-- The elements of tokens with a spelling of their own are accepted in any scope. -/
theorem accepts_of_fixedSpelling? (scope : Scope) {name spelling : String}
    (found : fixedSpelling? name = some spelling) : scope.accepts (elementName name) = true := by
  have element := elementName_of_fixedSpelling? found
  have known := (fixedSpelling?_elementName name).mpr element
  cases declared : scope.declared <;> simp [accepts, declared, known]

/-- An accepted element is recorded if it is a built-in. -/
theorem yield_refer_of_accepts {scope : Scope} {α : Type} {element token : String}
    (accepted : scope.accepts element = true) (value : α) :
    scope.yield [.refer element token] value = ⟨.ok value, .ofElement element⟩ := by
  rw [yield_of_met]
  · simp [Demand.allBuiltins, Demand.builtins, Demand.element?]
  · simp [refusal?, accepted]

/-- An element that is not accepted is refused, and nothing is recorded. -/
theorem yield_refer_of_not_accepts {scope : Scope} {α : Type} {element token : String}
    (refused : scope.accepts element = false) (value : α) :
    scope.yield [.refer element token] value = .fail (.unresolvable element token) := by
  simp only [yield, meet, refusal?, refused, Bool.false_eq_true, ↓reduceIte]
  rfl

/-- Resolving a part of a token asks for its element and yields its expression. -/
theorem resolvePart_eq (scope : Scope) (name token : String) :
    scope.resolvePart name token =
      scope.yield [.refer (elementName name) token] (nameExpression scope.style name) := by
  unfold resolvePart
  cases exact : Builtin.ofName? name with
  | some builtin =>
    obtain rfl := Builtin.ofName?_eq_some_iff.mp exact
    have accepted := scope.accepts_spelling builtin
    rw [elementName_spelling, yield_refer_of_accepts accepted, nameExpression,
      fixedSpelling?_spelling, BuiltinSet.ofElement, exact]
    rfl
  | none =>
    cases fixed : fixedSpelling? name with
    | some spelling =>
      rw [yield_refer_of_accepts (scope.accepts_of_fixedSpelling? fixed), nameExpression, fixed]
      -- neither `string` nor `bool` is the name of a built-in
      rcases elementName_of_fixedSpelling? fixed with element | element <;> rw [element] <;> rfl
    | none =>
      rw [nameExpression, fixed]
      dsimp only
      cases element : Builtin.ofName? (elementName name) with
      | some builtin =>
        -- what was recorded is accepted, so a refusal never comes after a record
        have accepted := scope.accepts_spelling builtin
        rw [Builtin.ofName?_eq_some_iff.mp element] at accepted
        rw [Emission.note_some_bind, if_pos accepted, yield_refer_of_accepts accepted,
          BuiltinSet.ofElement, element]
        exact Emission.ext rfl (BuiltinSet.union_empty _)
      | none =>
        rw [Emission.note_none_bind]
        cases accepted : scope.accepts (elementName name) with
        | true =>
          rw [if_pos rfl, yield_refer_of_accepts accepted, BuiltinSet.ofElement, element]
          rfl
        | false =>
          rw [if_neg Bool.false_ne_true, yield_refer_of_not_accepts accepted]

/-- Resolving a token asks for its element and yields its expression. -/
theorem resolve_eq (scope : Scope) (token : String) :
    scope.resolve (some token) =
      scope.yield [.refer (tokenElement token) token] (tokenExpression scope.style token) := by
  rw [resolve, tokenElement, tokenExpression]
  obtain ⟨name, optional⟩ := splitOptional token
  cases optional with
  | true =>
    change (scope.resolvePart name token >>= fun found => pure (found ++ absentAlternative)) = _
    rw [resolvePart_eq]
    exact yield_map (· ++ absentAlternative)
  | false => simpa using scope.resolvePart_eq name token

/-- Resolving a name without its mark asks for its element and yields its expression. -/
theorem resolveName_eq (scope : Scope) (name : String) :
    scope.resolveName (some name) =
      scope.yield [.refer (elementName name) name] (nameExpression scope.style name) :=
  scope.resolvePart_eq name name

end Scope
end AbiTypings
