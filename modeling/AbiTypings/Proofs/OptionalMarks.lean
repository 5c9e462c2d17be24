import AbiTypings.Proofs.Declarations

/-!
# Optional marks of fields and aliases

A token means the same as the type of a field and as the target of an alias: both record the same
built-in, and either both have an expression or both fail for the same element. They differ in what
becomes of an optional mark. The alias says in its expression that the value may be absent, while
the field says so at its name. The fault of a field names the token without the mark, since the mark
is gone by the time the rest is resolved; the fault of an alias names the token as it is written.
-/

namespace AbiTypings

/-- A token is split into a name and its optional mark, which is a question mark at its end. -/
theorem exists_splitOptional (token : String) :
    ∃ name optional, splitOptional token = (name, optional) ∧
      token = name ++ (if optional then "?" else "") ∧
      (optional = true ↔ token.toList.getLast? = some '?') := by
  by_cases marked : token.toList.getLast? = some '?'
  · obtain ⟨front, split⟩ := List.getLast?_eq_some_iff.mp marked
    have written : token = String.ofList front ++ "?" := by
      apply String.toList_inj.mp
      rw [split, String.toList_append, String.toList_ofList]
      rfl
    refine ⟨String.ofList front, true, ?_, written, iff_of_true rfl marked⟩
    rw [written, splitOptional_append_mark]
  · refine ⟨token, false, splitOptional_of_getLast?_ne marked, ?_, by simp [marked]⟩
    exact String.append_empty.symm

section Emission

variable {scope : Scope} {token name : String} {optional : Bool}
  (split : splitOptional token = (name, optional))

include split

/-- A field is emitted under the reference of its type without the optional mark, which stands at
its name. -/
theorem Field.emit_of_splitOptional (label : Option String) :
    Field.emit scope (some ⟨label, some token⟩) =
      scope.yield [.refer (tokenElement token) name]
        ⟨shown label, optional, nameExpression scope.style name⟩ := by
  rw [Field.emit_eq]
  simp [demands, declaration, entryDemands, split, shown]

/-- An alias is emitted under the reference of its target, and its expression has the alternative
`undefined` in the place of the optional mark. -/
theorem TypeAlias.emit_of_splitOptional (identifier : String) :
    TypeAlias.emit scope (some ⟨some identifier, some token⟩) =
      scope.yield [.refer (tokenElement token) token]
        (.typeAlias (scope.style.format identifier)
          (nameExpression scope.style name ++ if optional then absentAlternative else "")) := by
  rw [TypeAlias.emit_eq]
  simp [demands, declaration, nameDemands, tokenDemands, entryDemands, NameStyle.identifier,
    tokenExpression, split, shown]

end Emission

/-- A field and an alias of one token are emitted alike, in any scope and with any built-ins
recorded before. The same built-ins are recorded. If the element of the token is accepted, the
expression of the alias is that of the field, with the alternative `undefined` exactly where the
field is marked as optional. If it is not, both fail for this element; the fault of the alias names
the token as it is written, and the fault of the field names it without its optional mark. -/
theorem emit_field_and_alias (scope : Scope) (recorded : BuiltinSet) (token identifier : String)
    (label : Option String) :
    ∃ name optional, token = name ++ (if optional then "?" else "") ∧
      (optional = true ↔ token.toList.getLast? = some '?') ∧
      recorded ∪ (Field.emit scope (some ⟨label, some token⟩)).used =
        recorded ∪ (TypeAlias.emit scope (some ⟨some identifier, some token⟩)).used ∧
      ((∃ expression, scope.accepts (tokenElement token) = true ∧
          (Field.emit scope (some ⟨label, some token⟩)).outcome =
            .ok ⟨shown label, optional, expression⟩ ∧
          (TypeAlias.emit scope (some ⟨some identifier, some token⟩)).outcome =
            .ok (.typeAlias (scope.style.format identifier)
              (expression ++ if optional then absentAlternative else ""))) ∨
        scope.accepts (tokenElement token) = false ∧
          (Field.emit scope (some ⟨label, some token⟩)).outcome =
            .error (.unresolvable (tokenElement token) name) ∧
          (TypeAlias.emit scope (some ⟨some identifier, some token⟩)).outcome =
            .error (.unresolvable (tokenElement token) token)) := by
  obtain ⟨name, optional, split, written, marked⟩ := exists_splitOptional token
  refine ⟨name, optional, written, marked, ?_⟩
  rw [Field.emit_of_splitOptional split, TypeAlias.emit_of_splitOptional split]
  cases accepted : scope.accepts (tokenElement token) with
  | true =>
    rw [Scope.yield_refer_of_accepts accepted, Scope.yield_refer_of_accepts accepted]
    exact ⟨rfl, .inl ⟨_, rfl, rfl, rfl⟩⟩
  | false =>
    rw [Scope.yield_refer_of_not_accepts accepted, Scope.yield_refer_of_not_accepts accepted]
    exact ⟨rfl, .inr ⟨rfl, rfl, rfl⟩⟩

/-- The faults of a field and of an alias of one optional token differ in the token that they
name. -/
theorem emit_field_unlike_alias :
    (Field.emit ⟨.pascal, some ["transfer"]⟩ (some ⟨some "memo", some "transfr[]?"⟩)).outcome =
        .error (.unresolvable "transfr" "transfr[]") ∧
      (TypeAlias.emit ⟨.pascal, some ["transfer"]⟩
          (some ⟨some "memo", some "transfr[]?"⟩)).outcome =
        .error (.unresolvable "transfr" "transfr[]?") ∧
      "transfr[]" ≠ "transfr[]?" := by
  refine ⟨by rfl, by rfl, by decide⟩

end AbiTypings
