import AbiTypings.Proofs.Resolution

/-!
# Arrays of names

An array of a name has the element of the name, so a scope accepts both or refuses both, and both
record the same built-in. The expression of the array is that of the name before the brackets,
except where the name has a spelling of its own and the array has none: the array is formatted then,
which makes another word of `bool` in every style and of `string` in pascal case.
-/

namespace AbiTypings

/-- A name has a spelling of its own that arrays of it do not keep: an array of the name has none,
and the style writes the element in another way. -/
def NameStyle.LosesSpelling (style : NameStyle) (name array : String) : Prop :=
  (fixedSpelling? name).isSome = true ∧ fixedSpelling? array = none ∧
    (elementName name = "bool" ∨ style = .pascal)

/-- An array of any depth has the element of its name. -/
theorem elementName_append (name : String) (depth : Nat) :
    elementName (name ++ brackets depth) = elementName name := by
  induction depth with
  | zero => simp [brackets]
  | succ depth ih => rw [brackets, ← String.append_assoc, elementName_append_brackets, ih]

/-! ## Spellings -/

/-- If an array has a spelling of its own, it is that of the name before the brackets. -/
theorem exists_fixedSpelling?_of_pair {name spelling : String}
    (found : fixedSpelling? (name ++ "[]") = some spelling) :
    ∃ inner, fixedSpelling? name = some inner ∧ spelling = inner ++ "[]" := by
  have ending (word : String) (other : word.toList.getLast? ≠ some ']') : name ++ "[]" ≠ word := by
    rintro rfl
    simp at other
  rcases mem_of_fixedSpelling? found with same | same | same | same
  · exact absurd same (ending _ (by decide))
  · obtain rfl : name = "string" := (String.append_left_inj "[]").mp same
    exact ⟨"string", rfl, (Option.some.inj found).symm⟩
  · exact absurd same (ending _ (by decide))
  · obtain rfl : name = "bool" := (String.append_left_inj "[]").mp same
    exact ⟨"boolean", rfl, (Option.some.inj found).symm⟩

/-- If an array of any depth has a spelling of its own, it is that of the name before the
brackets. -/
theorem exists_fixedSpelling?_of_append {name spelling : String} {depth : Nat}
    (found : fixedSpelling? (name ++ brackets depth) = some spelling) :
    ∃ inner, fixedSpelling? name = some inner ∧ spelling = inner ++ brackets depth := by
  induction depth generalizing spelling with
  | zero => exact ⟨spelling, by simpa [brackets] using found, by simp [brackets]⟩
  | succ depth ih =>
    rw [brackets, ← String.append_assoc] at found
    obtain ⟨outer, outerFound, rfl⟩ := exists_fixedSpelling?_of_pair found
    obtain ⟨inner, innerFound, rfl⟩ := ih outerFound
    exact ⟨inner, innerFound, by rw [brackets, String.append_assoc]⟩

/-- A style writes a name as its own spelling exactly when the element is `string` and the style
does not raise its first character. -/
theorem format_eq_spelling_iff {name spelling : String} (style : NameStyle)
    (found : fixedSpelling? name = some spelling) :
    style.format name = spelling ↔ ¬ (elementName name = "bool" ∨ style = .pascal) := by
  rcases mem_of_fixedSpelling? found with rfl | rfl | rfl | rfl <;>
    obtain rfl := Option.some.inj found <;> cases style <;> decide

/-- The expression of an array is that of the name before the brackets, unless the array loses the
spelling of the name. -/
theorem nameExpression_append_iff (style : NameStyle) (name : String) (depth : Nat) :
    nameExpression style (name ++ brackets depth) = nameExpression style name ++ brackets depth ↔
      ¬ style.LosesSpelling name (name ++ brackets depth) := by
  cases array : fixedSpelling? (name ++ brackets depth) with
  | some spelling =>
    obtain ⟨inner, found, rfl⟩ := exists_fixedSpelling?_of_append array
    simp [nameExpression, NameStyle.LosesSpelling, array, found]
  | none =>
    rw [nameExpression, array, Option.getD_none, format_append_brackets, String.append_left_inj]
    cases found : fixedSpelling? name with
    | none => simp [nameExpression, NameStyle.LosesSpelling, found]
    | some spelling =>
      simp only [nameExpression, NameStyle.LosesSpelling, array, found, Option.getD_some,
        Option.isSome_some, true_and]
      exact format_eq_spelling_iff style found

/-! ## Resolution -/

namespace Scope

/-- An array of a name is resolved as the name is, in any scope and with any built-ins recorded
before: the same built-ins are recorded, and either both fail for the same element or both have an
expression. That of the array is that of the name before the brackets exactly when the array does
not lose the spelling of the name. -/
theorem resolveName_array (scope : Scope) (recorded : BuiltinSet) (name : String) (depth : Nat) :
    recorded ∪ (scope.resolveName (some (name ++ brackets depth))).used =
        recorded ∪ (scope.resolveName (some name)).used ∧
      ((∃ element,
          (scope.resolveName (some name)).outcome = .error (.unresolvable element name) ∧
          (scope.resolveName (some (name ++ brackets depth))).outcome =
            .error (.unresolvable element (name ++ brackets depth))) ∨
        ∃ expression arrayExpression,
          (scope.resolveName (some name)).outcome = .ok expression ∧
          (scope.resolveName (some (name ++ brackets depth))).outcome = .ok arrayExpression ∧
          (arrayExpression = expression ++ brackets depth ↔
            ¬ scope.style.LosesSpelling name (name ++ brackets depth))) := by
  rw [resolveName_eq, resolveName_eq, elementName_append]
  cases accepted : scope.accepts (elementName name) with
  | true =>
    rw [yield_refer_of_accepts accepted, yield_refer_of_accepts accepted]
    exact ⟨rfl, .inr ⟨_, _, rfl, rfl, nameExpression_append_iff scope.style name depth⟩⟩
  | false =>
    rw [yield_refer_of_not_accepts accepted, yield_refer_of_not_accepts accepted]
    exact ⟨rfl, .inl ⟨_, rfl, rfl⟩⟩

/-- Arrays of arrays of `bool` lose its spelling in strict mode, where no name is declared. -/
theorem resolveName_array_of_arrays :
    (resolveName ⟨.pascal, some []⟩ (some "bool[]")).outcome = .ok "boolean[]" ∧
      (resolveName ⟨.pascal, some []⟩ (some ("bool[]" ++ "[]"))).outcome = .ok "Bool[][]" ∧
      "Bool[][]" ≠ "boolean[]" ++ "[]" := by
  refine ⟨by rfl, by rfl, by decide⟩

end Scope
end AbiTypings
