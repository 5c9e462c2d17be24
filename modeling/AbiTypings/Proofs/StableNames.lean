import AbiTypings.NameStyle
import AbiTypings.Proofs.Capitals

/-!
# Stable identifiers

Pascal case raises the first character of each word of a name and joins the words. The result is a
single word that begins with a capital, so pascal case leaves it as it is. Camel case lowers that
capital; a second time it raises what it lowered and lowers it again, which leaves every identifier
as it is but those that begin with the lower case of a capital sharp s.
-/

namespace AbiTypings.NameStyle

/-! ## Words -/

/-- Raises the first character. -/
def raiseFirst : List Char → List Char
  | [] => []
  | c :: rest => Text.upper c ++ rest

/-- The words of a name: what stands between its underscores. -/
def words (name : List Char) : List (List Char) := name.splitOn '_'

/-- An underscore ends a word. -/
theorem words_underscore (rest : List Char) : words ('_' :: rest) = [] :: words rest := by
  rw [words, List.splitOn_cons_eq_if_modifyHead, if_pos (by rfl), words]

/-- Any other character belongs to the word that follows. -/
theorem words_cons {c : Char} {rest : List Char} (inside : c ≠ '_') :
    words (c :: rest) = (words rest).modifyHead (c :: ·) := by
  rw [words, List.splitOn_cons_eq_if_modifyHead, if_neg (by simpa using inside), words]

/-- Pascal case raises the first character of each word, of the first one only if it starts here. -/
theorem pascalChars_eq_words (starts : Bool) (name : List Char) :
    pascalChars starts name =
      match words name with
      | [] => []
      | word :: later => (if starts then raiseFirst word else word) ++ later.flatMap raiseFirst := by
  induction name generalizing starts with
  | nil => cases starts <;> rfl
  | cons c rest ih =>
    rw [pascalChars]
    by_cases underscore : c = '_'
    · subst underscore
      have start := ih true
      rw [if_pos rfl, start, words_underscore]
      cases words rest with
      | nil => cases starts <;> rfl
      | cons word later => cases starts <;> rfl
    · have later := ih false
      rw [if_neg underscore, later, words_cons underscore]
      cases split : words rest with
      | nil => exact absurd split (List.splitOn_ne_nil '_' rest)
      | cons word later => cases starts <;> simp [raiseFirst]

/-- Pascal case raises the first character of each word and joins the words. -/
theorem pascalChars_true (name : List Char) :
    pascalChars true name = (words name).flatMap raiseFirst := by
  rw [pascalChars_eq_words]
  cases words name <;> rfl

/-! ## Pascal case -/

/-- Pascal case drops the underscores in front of the first word. -/
theorem pascalChars_dropWhile (name : List Char) :
    pascalChars true (name.dropWhile (· = '_')) = pascalChars true name := by
  induction name with
  | nil => rfl
  | cons c rest ih =>
    by_cases underscore : c = '_'
    · rw [List.dropWhile_cons_of_pos (by simpa using underscore), ih, pascalChars,
        if_pos underscore]
    · rw [List.dropWhile_cons_of_neg (by simpa using underscore)]

/-- Pascal case begins with the upper case of the first character that is no underscore. -/
theorem pascalChars_of_dropWhile {name rest : List Char} {c : Char}
    (front : name.dropWhile (· = '_') = c :: rest) :
    pascalChars true name = Text.upper c ++ pascalChars false rest := by
  have inside : c ≠ '_' := by
    have head := List.head?_dropWhile_not (· = '_') name
    rw [front] at head
    simpa using head
  rw [← pascalChars_dropWhile, front, pascalChars, if_neg inside, if_pos rfl]

/-- Pascal case has no underscores. -/
theorem underscore_notMem_pascalChars (starts : Bool) (name : List Char) :
    '_' ∉ pascalChars starts name := by
  induction name generalizing starts with
  | nil => exact List.not_mem_nil
  | cons c rest ih =>
    by_cases underscore : c = '_'
    · rw [pascalChars, if_pos underscore]
      exact ih true
    · have unraised : '_' ∉ Text.upper c := fun member =>
        underscore (Text.eq_of_underscore_mem_upper member).symm
      rw [pascalChars, if_neg underscore]
      cases starts with
      | true => exact List.not_mem_append unraised (ih false)
      | false => exact List.not_mem_cons_of_ne_of_not_mem (Ne.symm underscore) (ih false)

/-- Inside a word without underscores nothing is raised. -/
theorem pascalChars_false_of_notMem {name : List Char} (single : '_' ∉ name) :
    pascalChars false name = name := by
  induction name with
  | nil => rfl
  | cons c rest ih =>
    have inside : c ≠ '_' := fun same => single (same ▸ List.mem_cons_self)
    have later : '_' ∉ rest := fun member => single (List.mem_cons_of_mem c member)
    rw [pascalChars, if_neg inside, ih later]
    rfl

/-- Of a single word pascal case raises the first character. -/
theorem pascalChars_true_of_notMem {name : List Char} (single : '_' ∉ name) :
    pascalChars true name = raiseFirst name := by
  cases name with
  | nil => rfl
  | cons c rest =>
    have inside : c ≠ '_' := fun same => single (same ▸ List.mem_cons_self)
    have later : '_' ∉ rest := fun member => single (List.mem_cons_of_mem c member)
    rw [pascalChars, if_neg inside, if_pos rfl, pascalChars_false_of_notMem later, raiseFirst]

/-- Pascal case begins with a character that is its own upper case. -/
theorem upper_of_pascalChars_eq_cons {name rest : List Char} {c : Char}
    (formed : pascalChars true name = c :: rest) : Text.upper c = [c] := by
  cases front : name.dropWhile (· = '_') with
  | nil =>
    rw [← pascalChars_dropWhile, front] at formed
    contradiction
  | cons first later =>
    obtain ⟨raised, tail, upper⟩ := Text.exists_upper_eq_cons first
    rw [pascalChars_of_dropWhile front, upper, List.cons_append] at formed
    rw [← (List.cons.inj formed).1]
    exact Text.upper_of_upper_eq_cons upper

/-- Pascal case leaves what it formed as it is. -/
theorem pascalChars_idem (name : List Char) :
    pascalChars true (pascalChars true name) = pascalChars true name := by
  rw [pascalChars_true_of_notMem (underscore_notMem_pascalChars true name)]
  cases formed : pascalChars true name with
  | nil => rfl
  | cons c rest => rw [raiseFirst, upper_of_pascalChars_eq_cons formed, List.singleton_append]

/-- Pascal case works word by word: it raises the first character of what stands between underscores,
so a name that is joined with an underscore has the identifiers of its parts side by side. No
underscore is left, and an identifier in pascal case is its own identifier. -/
theorem pascal_format_stable (left right : String) :
    (pascal.format left).toList = (words left.toList).flatMap raiseFirst ∧
      pascal.format (left ++ "_" ++ right) = pascal.format left ++ pascal.format right ∧
      '_' ∉ (pascal.format left).toList ∧
      pascal.format (pascal.format left) = pascal.format left := by
  have chars (name : String) : (pascal.format name).toList = pascalChars true name.toList :=
    toList_format pascal name
  refine ⟨?_, ?_, ?_, ?_⟩
  · rw [chars, pascalChars_true]
  · apply String.toList_inj.mp
    have joined : (left ++ "_" ++ right).toList = left.toList ++ '_' :: right.toList := by simp
    rw [chars, joined, pascalChars_append_underscore, String.toList_append, chars, chars]
  · rw [chars]
    exact underscore_notMem_pascalChars true left.toList
  · apply String.toList_inj.mp
    rw [chars, chars, pascalChars_idem]

/-! ## Camel case -/

/-- What the lower case of a lost capital begins with is kept when it is raised and lowered again,
unless the capital is the sharp s. -/
theorem lowerFirst_upper_of_lost :
    Text.lostCapitals.all (fun c => c == 'ẞ' || (Text.lower c).head?.all fun first =>
      lowerFirst (Text.upper first) == [first]) = true := by
  decide +kernel

/-- Raising and lowering again keeps the first character of the lower case of a capital, unless the
capital is the sharp s. -/
theorem lowerFirst_upper {c first : Char} {rest : List Char} (capital : Text.upper c = [c])
    (plain : c ≠ 'ẞ') (lowered : Text.lower c = first :: rest) :
    lowerFirst (Text.upper first) = [first] := by
  by_cases lost : c ∈ Text.lostCapitals
  · have either := List.all_eq_true.mp lowerFirst_upper_of_lost c lost
    rw [Bool.or_eq_true, beq_iff_eq] at either
    rcases either with sharp | kept
    · exact absurd sharp plain
    · rw [lowered, List.head?_cons, Option.all_some, beq_iff_eq] at kept
      exact kept
  · have ⟨alone, raised⟩ := Text.upper_of_lower_eq_cons capital lost lowered
    rw [raised, lowerFirst, List.append_nil, lowered, alone]

/-- Lowering the first character of what does not end before it leaves the rest. -/
theorem lowerFirst_append {chars : List Char} (filled : chars ≠ []) (rest : List Char) :
    lowerFirst (chars ++ rest) = lowerFirst chars ++ rest := by
  cases chars with
  | nil => contradiction
  | cons c later => simp [lowerFirst]

/-- Camel case keeps an identifier that begins with the lower case of a capital, unless the capital
is the sharp s. -/
theorem camel_of_capital {c : Char} {rest : List Char} (capital : Text.upper c = [c])
    (plain : c ≠ 'ẞ') (single : '_' ∉ c :: rest) :
    lowerFirst (pascalChars true (lowerFirst (c :: rest))) = lowerFirst (c :: rest) := by
  obtain ⟨first, later, lowered⟩ := Text.exists_lower_eq_cons c
  have formed : lowerFirst (c :: rest) = first :: (later ++ rest) := by
    rw [lowerFirst, lowered, List.cons_append]
  have word : '_' ∉ first :: (later ++ rest) := by
    rw [← List.cons_append, ← lowered]
    refine List.not_mem_append (fun member => ?_) fun member =>
      single (List.mem_cons_of_mem c member)
    exact single (Text.eq_of_underscore_mem_lower member ▸ List.mem_cons_self)
  obtain ⟨raised, tail, upper⟩ := Text.exists_upper_eq_cons first
  have filled : Text.upper first ≠ [] := by simp [upper]
  rw [formed, pascalChars_true_of_notMem word, raiseFirst, lowerFirst_append filled,
    lowerFirst_upper capital plain lowered, List.singleton_append]

/-- The capital sharp s is its own upper case. Its lower case is raised to two letters. -/
theorem sharp_images : Text.upper 'ẞ' = ['ẞ'] ∧ Text.lower 'ẞ' = ['ß'] ∧
    Text.upper 'ß' = ['S', 'S'] ∧ Text.lower 'S' = ['s'] := by
  decide +kernel

/-- Camel case raises the lower case of the sharp s to two characters. -/
theorem camel_of_sharp {rest : List Char} (single : '_' ∉ rest) :
    lowerFirst (pascalChars true (lowerFirst ('ẞ' :: rest))) ≠ lowerFirst ('ẞ' :: rest) := by
  obtain ⟨-, lowered, raised, again⟩ := sharp_images
  have word : '_' ∉ 'ß' :: rest := List.not_mem_cons_of_ne_of_not_mem (by decide) single
  rw [lowerFirst, lowered, List.singleton_append, pascalChars_true_of_notMem word, raiseFirst,
    raised, List.cons_append, lowerFirst, again]
  simp

/-- An identifier in camel case is its own identifier if and only if the name, after the underscores
in front, does not begin with the capital sharp s. -/
theorem camel_format_stable_iff (name : String) :
    camel.format (camel.format name) = camel.format name ↔
      (name.toList.dropWhile (· = '_')).head? ≠ some 'ẞ' := by
  have chars (name : String) :
      (camel.format name).toList = lowerFirst (pascalChars true name.toList) :=
    toList_format camel name
  rw [← String.toList_inj, chars, chars]
  have single := underscore_notMem_pascalChars true name.toList
  cases front : name.toList.dropWhile (· = '_') with
  | nil =>
    have empty : pascalChars true name.toList = [] := by
      rw [← pascalChars_dropWhile, front, pascalChars]
    rw [empty]
    simp [pascalChars, lowerFirst]
  | cons c rest =>
    obtain ⟨first, tail, upper⟩ := Text.exists_upper_eq_cons c
    have formed := pascalChars_of_dropWhile front
    rw [upper, List.cons_append] at formed
    have capital := Text.upper_of_upper_eq_cons upper
    have same : first = 'ẞ' ↔ c = 'ẞ' := by
      constructor
      · intro sharp
        exact (Text.eq_of_sharp_mem_upper (by rw [upper, sharp]; exact List.mem_cons_self)).symm
      · intro sharp
        rw [sharp, sharp_images.1] at upper
        exact (List.cons.inj upper).1.symm
    rw [formed] at single ⊢
    rw [List.head?_cons, Ne, Option.some.injEq, ← same]
    constructor
    · intro stable sharp
      subst sharp
      exact camel_of_sharp (fun member => single (List.mem_cons_of_mem _ member)) stable
    · intro plain
      exact camel_of_capital capital plain single

/-- The capital sharp s is lowered to a letter that camel case does not keep. -/
theorem camel_format_sharp : camel.format (camel.format "ẞ") ≠ camel.format "ẞ" := by
  decide +kernel

end AbiTypings.NameStyle
