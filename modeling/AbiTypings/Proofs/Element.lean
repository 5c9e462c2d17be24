import AbiTypings.Reference

/-!
# Elements of names

A name is its element followed by pairs of brackets, and the element has no brackets at its end.
Every style formats the element and keeps the brackets, because no style changes them and brackets
never start a word of a name that has other characters. The tokens with a spelling of their own
are names whose element is `string` or `bool`, and a built-in is its own element.
-/

namespace AbiTypings

/-- As many pairs of brackets as there are arrays around an element. -/
def brackets : Nat → String
  | 0 => ""
  | depth + 1 => brackets depth ++ "[]"

/-- Stripped characters have no pair of brackets left to strip. -/
theorem stripArrays_idem (chars : List Char) :
    stripArrays (stripArrays chars) = stripArrays chars := by
  fun_induction stripArrays chars with
  | case1 rest ih => exact ih
  | case2 other plain =>
    unfold stripArrays
    split
    · exact absurd rfl (plain _)
    · rfl

/-- Reversed characters are the stripped ones before the pairs of brackets that were removed. -/
theorem exists_stripArrays_append (chars : List Char) :
    ∃ depth, chars.reverse = (stripArrays chars).reverse ++ (brackets depth).toList := by
  fun_induction stripArrays chars with
  | case1 rest ih =>
    obtain ⟨depth, split⟩ := ih
    refine ⟨depth + 1, ?_⟩
    rw [List.reverse_cons, List.reverse_cons, split]
    simp [brackets]
  | case2 other plain => exact ⟨0, by simp [brackets]⟩

/-- An element is its own element. -/
theorem elementName_idem (name : String) : elementName (elementName name) = elementName name := by
  simp only [elementName, String.toList_ofList, List.reverse_reverse, stripArrays_idem]

/-- A name is its element followed by pairs of brackets. -/
theorem exists_elementName_append (name : String) :
    ∃ depth, name = elementName name ++ brackets depth := by
  obtain ⟨depth, split⟩ := exists_stripArrays_append name.toList.reverse
  refine ⟨depth, ?_⟩
  apply String.toList_inj.mp
  rw [List.reverse_reverse] at split
  rw [elementName, String.toList_append, String.toList_ofList]
  exact split

/-! ## Formatting -/

/-- Pascal case keeps a pair of brackets at the end of a name. -/
theorem pascalChars_append_brackets (starts : Bool) (chars : List Char) :
    NameStyle.pascalChars starts (chars ++ ['[', ']']) =
      NameStyle.pascalChars starts chars ++ ['[', ']'] := by
  have upperBracket : Text.upper '[' = ['['] := Text.upper_ascii (by decide)
  induction chars generalizing starts with
  | nil => cases starts <;> simp [NameStyle.pascalChars, upperBracket]
  | cons c rest ih =>
    by_cases underscore : c = '_'
    · simp [NameStyle.pascalChars, underscore, ih]
    · cases starts <;> simp [NameStyle.pascalChars, underscore, ih]

/-- Lowering the first character keeps a pair of brackets at the end of a name. -/
theorem lowerFirst_append_brackets (chars : List Char) :
    NameStyle.lowerFirst (chars ++ ['[', ']']) = NameStyle.lowerFirst chars ++ ['[', ']'] := by
  cases chars with
  | nil =>
    have lowerBracket : Text.lower '[' = ['['] := Text.lower_ascii (by decide)
    simp [NameStyle.lowerFirst, lowerBracket]
  | cons c rest => simp [NameStyle.lowerFirst]

/-- Every style keeps a pair of brackets at the end of a name. -/
theorem format_append_pair (style : NameStyle) (name : String) :
    style.format (name ++ "[]") = style.format name ++ "[]" := by
  apply String.toList_inj.mp
  have pair : "[]".toList = ['[', ']'] := rfl
  rw [String.toList_append, NameStyle.toList_format, NameStyle.toList_format,
    String.toList_append, pair]
  cases style with
  | pascal => exact pascalChars_append_brackets true name.toList
  | camel =>
    simp only [NameStyle.formatChars, pascalChars_append_brackets, lowerFirst_append_brackets]
  | identity => rfl

/-- Every style formats the element and keeps the brackets. -/
theorem format_append_brackets (style : NameStyle) (name : String) (depth : Nat) :
    style.format (name ++ brackets depth) = style.format name ++ brackets depth := by
  induction depth with
  | zero => simp [brackets]
  | succ depth ih => rw [brackets, ← String.append_assoc, format_append_pair, ih,
      String.append_assoc]

/-! ## Built-ins and fixed spellings -/

/-- A built-in is its own element. -/
theorem elementName_spelling (builtin : Builtin) :
    elementName builtin.spelling = builtin.spelling := by
  cases builtin <;> decide

/-- No built-in has a spelling of its own. -/
theorem fixedSpelling?_spelling (builtin : Builtin) :
    fixedSpelling? builtin.spelling = none := by
  cases builtin <;> decide

/-- A spelling of its own is in the table of such spellings. -/
theorem mem_fixedSpellings {name spelling : String}
    (found : fixedSpelling? name = some spelling) : (name, spelling) ∈ fixedSpellings := by
  obtain ⟨front, back, listed, -⟩ := List.lookup_eq_some_iff.mp found
  simp [listed]

/-- The tokens with a spelling of their own are listed. -/
theorem mem_of_fixedSpelling? {name spelling : String}
    (found : fixedSpelling? name = some spelling) :
    name = "string" ∨ name = "string[]" ∨ name = "bool" ∨ name = "bool[]" := by
  have member := mem_fixedSpellings found
  simp only [fixedSpellings, List.mem_cons, Prod.mk.injEq, List.not_mem_nil, or_false] at member
  rcases member with ⟨named, -⟩ | ⟨named, -⟩ | ⟨named, -⟩ | ⟨named, -⟩ <;> simp [named]

/-- The element of a token with a spelling of its own is `string` or `bool`. -/
theorem elementName_of_fixedSpelling? {name spelling : String}
    (found : fixedSpelling? name = some spelling) :
    elementName name = "string" ∨ elementName name = "bool" := by
  rcases mem_of_fixedSpelling? found with rfl | rfl | rfl | rfl
  · exact .inl (by decide)
  · exact .inl (by decide)
  · exact .inr (by decide)
  · exact .inr (by decide)

/-- Among elements only `string` and `bool` have a spelling of their own. -/
theorem fixedSpelling?_elementName (name : String) :
    (fixedSpelling? (elementName name)).isSome ↔
      elementName name = "string" ∨ elementName name = "bool" := by
  constructor
  · intro found
    obtain ⟨spelling, found⟩ := Option.isSome_iff_exists.mp found
    have element := elementName_of_fixedSpelling? found
    rwa [elementName_idem] at element
  · rintro (element | element) <;> rw [element] <;> decide

end AbiTypings
