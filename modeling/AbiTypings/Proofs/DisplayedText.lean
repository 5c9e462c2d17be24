import AbiTypings.Json.Printer
import AbiTypings.Proofs.PrintedIntegers

/-!
# Displayed values

The text of a value that is no text has only characters that stand for themselves: numbers are in
ASCII, and inside quotes every half of a surrogate pair and the mark in front of halves are escaped,
as they are not printable. So such a text is whole, whatever the value is.
-/

namespace AbiTypings

namespace Text

/-! ## Quoted texts -/

/-- Hexadecimal digits have no mark. -/
theorem mark_notMem_hex (width number : Nat) : mark ∉ hex width number := by
  induction width generalizing number with
  | zero => exact List.not_mem_nil
  | succ width ih =>
    have digits : ∀ digit ∈ List.range 16, mark ≠ hexDigit digit := by decide
    have last := digits (number % 16) (List.mem_range.mpr (Nat.mod_lt _ (by decide)))
    rw [hex, List.mem_append, List.mem_singleton, not_or]
    exact ⟨ih _, last⟩

/-- The escape of a character has no mark. -/
theorem mark_notMem_codeEscape (c : Char) : mark ∉ codeEscape c := by
  have letters : mark ≠ '\\' ∧ mark ≠ 'x' ∧ mark ≠ 'u' ∧ mark ≠ 'U' := by decide
  obtain ⟨backslash, two, four, eight⟩ := letters
  unfold codeEscape
  split
  · simp [backslash, two, mark_notMem_hex]
  · split
    · simp [backslash, four, mark_notMem_hex]
    · simp [backslash, eight, mark_notMem_hex]

/-- A character between quote marks has no mark in front of halves, as that is not printable. -/
theorem mark_notMem_quotedChar {quote : Char} (other : quote ≠ mark) (c : Char) :
    mark ∉ quotedChar quote c := by
  have letters : mark ≠ '\\' ∧ mark ≠ 'n' ∧ mark ≠ 'r' ∧ mark ≠ 't' := by decide
  obtain ⟨backslash, feed, carriage, tab⟩ := letters
  have hidden : isPrintable mark = false := by decide +kernel
  unfold quotedChar
  split
  · rename_i escaped
    have apart : mark ≠ c := by
      rintro rfl
      rcases escaped with same | same
      · exact other same.symm
      · exact backslash same
    simp [backslash, apart]
  split
  · simp [backslash, feed]
  split
  · simp [backslash, carriage]
  split
  · simp [backslash, tab]
  split
  · rename_i printable
    rw [List.mem_singleton]
    rintro rfl
    exact absurd printable (by simp [hidden])
  · exact mark_notMem_codeEscape c

/-- A quoted text has no mark in front of halves. -/
theorem mark_notMem_quoted (text : String) : mark ∉ (quoted text).toList := by
  have other : quoteMark text.toList ≠ mark := by
    unfold quoteMark
    split <;> decide
  have letters : mark ≠ '\\' ∧ mark ≠ 'u' := by decide
  rw [quoted, String.toList_ofList]
  simp only [List.cons_append, List.mem_cons, List.mem_append, List.mem_flatMap, not_or,
    not_exists, not_and]
  refine ⟨other.symm, fun point _ => ?_, other.symm, List.not_mem_nil⟩
  cases point with
  | char c => exact mark_notMem_quotedChar other c
  | lone half => simp [quotedPoint, Half.escape, letters, mark_notMem_hex]

end Text

open Text (mark)

/-! ## Numbers -/

/-- The digits of a number have no mark. -/
theorem mark_notMem_toDigits (number : Nat) : mark ∉ Nat.toDigits 10 number := by
  intro member
  exact absurd (Json.isDigit_of_mem_toDigits member) (by decide)

/-- The text of a number has no mark. -/
theorem mark_notMem_toString (number : Nat) : mark ∉ (toString number).toList := by
  simpa using mark_notMem_toDigits number

namespace DecimalLayout

/-- The digits of a decimal have no mark. -/
theorem mark_notMem_normalDigits (number : Decimal) : mark ∉ (normalDigits number).1 := by
  intro member
  have within := List.dropWhile_subset _ (List.mem_reverse.mp member)
  exact mark_notMem_toString number.digits (List.mem_reverse.mp within)

/-- Digits with a point have no mark if the digits have none. -/
theorem mark_notMem_pointAfter {digits : List Char} (free : mark ∉ digits) (count : Nat) :
    mark ∉ pointAfter count digits := by
  have letters : mark ≠ '0' ∧ mark ≠ '.' := by decide
  have whole : mark ∉ digits.take count := fun member => free (List.mem_of_mem_take member)
  have places : mark ∉ digits.drop count := fun member => free (List.mem_of_mem_drop member)
  unfold pointAfter
  dsimp only
  split <;> simp [letters, whole, places]

/-- The text of an exponent has no mark. -/
theorem mark_notMem_exponentText (layout : DecimalLayout) (exponent : Int) :
    mark ∉ layout.exponentText exponent := by
  have letters : mark ≠ '0' ∧ mark ≠ '-' ∧ mark ≠ '+' := by decide
  have digits := mark_notMem_toDigits exponent.natAbs
  unfold exponentText
  dsimp only
  split <;> simp [letters, digits]

/-- The text of a decimal has no mark. -/
theorem mark_notMem_write (layout : DecimalLayout) (number : Decimal) :
    mark ∉ layout.write number := by
  have letters : mark ≠ '0' ∧ mark ≠ '.' ∧ mark ≠ 'e' := by decide
  have free := mark_notMem_normalDigits number
  unfold write
  generalize normalDigits number = normal at free
  obtain ⟨digits, exponent⟩ := normal
  dsimp only at free ⊢
  split
  · have power := layout.mark_notMem_exponentText exponent
    split
    · simp only [List.mem_cons, not_or] at free
      simp [letters, free, power]
    · simp [letters, free, power]
  split
  · simp [letters, free]
  · exact mark_notMem_pointAfter free _

end DecimalLayout

namespace Json

/-- The text of a double has no mark if the words for what is not finite have none. -/
theorem mark_notMem_floatText {words : FloatWords} (infinity : mark ∉ words.infinity.toList)
    (nan : mark ∉ words.nan.toList) (value : Binary64) : mark ∉ floatText words value := by
  have letters : mark ≠ '-' ∧ mark ≠ '0' ∧ mark ≠ '.' := by decide
  cases value with
  | finite negative significand exponent =>
    have decimal := floatLayout.mark_notMem_write (Binary64.shortest significand exponent)
    cases negative <;> by_cases zero : significand = 0 <;> simp [floatText, letters, zero, decimal]
  | infinite negative => cases negative <;> simp [floatText, letters, infinity]
  | nan => exact nan

/-! ## Values -/

mutual

/-- The text of a value inside a container has no mark. -/
theorem mark_notMem_displayQuoted : (value : Json) → mark ∉ displayQuoted value
  | .null => by decide
  | .bool true => by decide
  | .bool false => by decide
  | .integer value => by
    have digits := mark_notMem_toDigits value.natAbs
    have minus : mark ≠ '-' := by decide
    rw [displayQuoted, toList_toString]
    split <;> simp [minus, digits]
  | .float value => mark_notMem_floatText (by decide) (by decide) value
  | .text value => Text.mark_notMem_quoted value
  | .array [] => by decide
  | .array (item :: items) => by
    have letters : mark ≠ '[' ∧ mark ≠ ']' := by decide
    simp [displayQuoted, letters, mark_notMem_displayQuoted item, mark_notMem_displayItems items]
  | .object [] => by decide
  | .object ((name, value) :: members) => by
    have letters : mark ≠ '\x7b' ∧ mark ≠ '\x7d' ∧ mark ≠ ':' ∧ mark ≠ ' ' := by decide
    simp [displayQuoted, letters, Text.mark_notMem_quoted, mark_notMem_displayQuoted value,
      mark_notMem_displayMembers members]

/-- The text of further items has no mark. -/
theorem mark_notMem_displayItems : (items : List Json) → mark ∉ displayItems items
  | [] => List.not_mem_nil
  | item :: items => by
    have letters : mark ≠ ',' ∧ mark ≠ ' ' := by decide
    simp [displayItems, letters, mark_notMem_displayQuoted item, mark_notMem_displayItems items]

/-- The text of further members has no mark. -/
theorem mark_notMem_displayMembers : (members : List (String × Json)) →
    mark ∉ displayMembers members
  | [] => List.not_mem_nil
  | (name, value) :: members => by
    have letters : mark ≠ ',' ∧ mark ≠ ' ' ∧ mark ≠ ':' := by decide
    simp [displayMembers, letters, Text.mark_notMem_quoted, mark_notMem_displayQuoted value,
      mark_notMem_displayMembers members]

end

/-- The text of a value that is no text is whole. -/
theorem isWhole_display {value : Json} (noText : value.kind ≠ .text) :
    Text.IsWhole value.display := by
  have shown : value.display = String.ofList (displayQuoted value) := by
    cases value with
    | text held => exact absurd rfl noText
    | _ => rfl
  apply Text.isWhole_of_free
  rw [shown, String.toList_ofList]
  exact mark_notMem_displayQuoted value

end Json
end AbiTypings
