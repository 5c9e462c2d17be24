import AbiTypings.Proofs.Tokens

/-!
# Printed integers

An integer is printed as its decimal digits, after a minus sign if it is negative. Only zero starts
with a zero, so the digits are those of a whole numeral, and what follows them must not go on with
the numeral: then the numeral is cut off just there, and its value is the integer unless it has more
digits than the reader takes.
-/

namespace AbiTypings.Json

/-- The numeral that an integer is printed as. -/
def Numeral.ofInt (value : Int) : Numeral := ⟨value < 0, Nat.toDigits 10 value.natAbs, [], none⟩

/-- No numeral goes on at the front of a text. -/
def EndsNumeral (rest : List Char) : Prop :=
  ∀ c, rest.head? = some c → isDigit c = false ∧ c ≠ '.' ∧ c ≠ 'e' ∧ c ≠ 'E'

/-! ## Digits -/

/-- The characters of decimal digits are digits. -/
theorem isDigit_of_mem_toDigits {number : Nat} {c : Char} (member : c ∈ Nat.toDigits 10 number) :
    isDigit c = true :=
  Nat.isDigit_of_mem_toDigits (by decide) (by decide) member

/-- There is a first digit. -/
theorem exists_toDigits (number : Nat) :
    ∃ c later, Nat.toDigits 10 number = c :: later ∧ isDigit c = true := by
  have nonempty : Nat.toDigits 10 number ≠ [] := Nat.toDigits_ne_nil
  obtain ⟨c, later, digits⟩ := List.exists_cons_of_ne_nil nonempty
  exact ⟨c, later, digits, isDigit_of_mem_toDigits (digits ▸ List.mem_cons_self)⟩

/-- Decimal digits denote the number. -/
theorem digitsValue_toDigits (number : Nat) : digitsValue (Nat.toDigits 10 number) = number := by
  have same (digits : List Char) : digitsValue digits = Nat.ofDigitChars 10 digits 0 := by
    simp only [digitsValue, Nat.ofDigitChars, Nat.mul_comm]
    rfl
  rw [same]
  exact Nat.ofDigitChars_toDigits (by decide) (by decide)

/-- A number that is not zero does not start with a zero. -/
theorem head?_toDigits_ne {number : Nat} (positive : 0 < number) :
    (Nat.toDigits 10 number).head? ≠ some '0' := by
  induction number using Nat.strongRecOn with
  | ind number ih =>
    rw [Nat.toDigits_eq_if (by decide)]
    split
    · rename_i small
      have digits : ∀ digit < 10, 0 < digit → Nat.digitChar digit ≠ '0' := by decide
      simpa using digits number small positive
    · have later := ih (number / 10) (by omega) (by omega)
      rwa [List.head?_append_of_ne_nil _ Nat.toDigits_ne_nil]

/-- A printed integer is its sign and its digits. -/
theorem toList_toString (value : Int) :
    (toString value).toList =
      (if value < 0 then ['-'] else []) ++ Nat.toDigits 10 value.natAbs := by
  cases value with
  | ofNat number =>
    have positive : ¬ Int.ofNat number < 0 := Int.not_lt.mpr (Int.natCast_nonneg number)
    rw [if_neg positive]
    exact Nat.toList_repr
  | negSucc number =>
    rw [if_pos (Int.negSucc_lt_zero number)]
    simp [toString, Int.repr]

/-- A printed integer starts with a minus sign or a digit. -/
theorem exists_toList_toString (value : Int) :
    ∃ c later, (toString value).toList = c :: later ∧ (c = '-' ∨ isDigit c = true) := by
  rw [toList_toString]
  split
  · exact ⟨_, _, rfl, .inl rfl⟩
  · obtain ⟨c, later, digits, digit⟩ := exists_toDigits value.natAbs
    exact ⟨c, later, digits, .inr digit⟩

/-! ## Numerals -/

/-- No numeral goes on with a character that is neither a digit nor one of its marks. -/
theorem endsNumeral_cons {c : Char}
    (other : isDigit c = false ∧ c ≠ '.' ∧ c ≠ 'e' ∧ c ≠ 'E') (rest : List Char) :
    EndsNumeral (c :: rest) := by
  intro first same
  obtain rfl := Option.some.inj same
  exact other

section Scan

variable {rest : List Char}

/-- Decimal digits are scanned up to a character that is no digit. -/
theorem scanDigits_toDigits (number : Nat) (ends : EndsNumeral rest) :
    scanDigits (Nat.toDigits 10 number ++ rest) = some (Nat.toDigits 10 number, rest) := by
  have digits : ∀ c ∈ Nat.toDigits 10 number, isDigit c = true := fun _ => isDigit_of_mem_toDigits
  have stops : rest.takeWhile isDigit = [] ∧ rest.dropWhile isDigit = rest := by
    cases rest with
    | nil => exact ⟨rfl, rfl⟩
    | cons c later =>
      have noDigit := (ends c rfl).1
      simp [noDigit]
  unfold scanDigits
  rw [List.takeWhile_append_of_pos digits, List.dropWhile_append_of_pos digits, stops.1, stops.2,
    List.append_nil]
  split
  · rename_i empty
    exact absurd empty Nat.toDigits_ne_nil
  · rfl

/-- Decimal digits are scanned as digits before the point. -/
theorem scanWhole_toDigits (number : Nat) (ends : EndsNumeral rest) :
    scanWhole (Nat.toDigits 10 number ++ rest) = some (Nat.toDigits 10 number, rest) := by
  by_cases zero : number = 0
  · subst zero
    rfl
  · have first : (Nat.toDigits 10 number ++ rest).head? ≠ some '0' := by
      rw [List.head?_append_of_ne_nil _ Nat.toDigits_ne_nil]
      exact head?_toDigits_ne (Nat.pos_of_ne_zero zero)
    rw [scanWhole_of_ne first, scanDigits_toDigits number ends]

/-- After the digits of a printed integer the numeral ends. -/
theorem numeralFrom_toDigits (negative : Bool) (number : Nat) (ends : EndsNumeral rest) :
    numeralFrom negative (Nat.toDigits 10 number, rest) =
      (⟨negative, Nat.toDigits 10 number, [], none⟩, rest) := by
  have noPoint : rest.head? ≠ some '.' := fun point => (ends _ point).2.1 rfl
  have noSmall : rest.head? ≠ some 'e' := fun mark => (ends _ mark).2.2.1 rfl
  have noLarge : rest.head? ≠ some 'E' := fun mark => (ends _ mark).2.2.2 rfl
  simp only [numeralFrom, scanFraction_of_ne noPoint, scanExponent_of_ne noSmall noLarge]

/-- A digit starts no literal, and neither does a minus sign before a digit. -/
theorem scanLiteral_of_isDigit {c : Char} (digit : isDigit c = true) (later : List Char) :
    scanLiteral (c :: later) = none ∧ scanLiteral ('-' :: c :: later) = none := by
  have letters : ['n', 't', 'f', 'N', 'I', '-'].all (!isDigit ·) = true := by decide
  have other : ∀ letter ∈ ['n', 't', 'f', 'N', 'I', '-'], (letter == c) = false := by
    intro letter member
    refine beq_eq_false_iff_ne.mpr ?_
    rintro rfl
    have noDigit := List.all_eq_true.mp letters letter member
    rw [digit] at noDigit
    contradiction
  simp only [List.mem_cons, List.not_mem_nil, or_false, forall_eq_or_imp, forall_eq] at other
  simp [scanLiteral, literals, List.isPrefixOf?, other]

/-- A digit is neither a punctuation mark nor a quote nor a blank. -/
theorem ne_of_isDigit {c : Char} (digit : isDigit c = true) :
    punctuation? c = none ∧ c ≠ '"' ∧ isBlank c = false := by
  have other (x : Char) (noDigit : isDigit x = false) : c ≠ x := by
    rintro rfl
    rw [digit] at noDigit
    contradiction
  refine ⟨?_, other _ (by decide), ?_⟩
  · unfold punctuation?
    split <;> first | rfl | exact absurd digit (by decide)
  · simp [isBlank, other ' ' (by decide), other '\t' (by decide), other '\n' (by decide),
      other '\r' (by decide)]

/-- The digits of a number are scanned as a numeral. -/
theorem scan_toDigits (number : Nat) (ends : EndsNumeral rest) :
    scan (Nat.toDigits 10 number ++ rest) =
      (.numeral ⟨false, Nat.toDigits 10 number, [], none⟩, rest) := by
  have whole := scanWhole_toDigits number ends
  have numeral := numeralFrom_toDigits false number ends
  obtain ⟨c, later, digits, digit⟩ := exists_toDigits number
  obtain ⟨noMark, noQuote, -⟩ := ne_of_isDigit digit
  rw [digits, List.cons_append] at whole
  rw [digits] at numeral ⊢
  have unsigned : (c :: (later ++ rest)).head? ≠ some '-' := by
    intro minus
    obtain rfl : c = '-' := Option.some.inj minus
    exact absurd digit (by decide)
  have scanned := scanNumeral_of_ne unsigned
  rw [whole, Option.map_some, numeral] at scanned
  rw [List.cons_append, scan_of_word noMark noQuote, scanWord,
    (scanLiteral_of_isDigit digit _).1, scanned]

/-- A minus sign and the digits of a number are scanned as a numeral. -/
theorem scan_minus_toDigits (number : Nat) (ends : EndsNumeral rest) :
    scan ('-' :: (Nat.toDigits 10 number ++ rest)) =
      (.numeral ⟨true, Nat.toDigits 10 number, [], none⟩, rest) := by
  have scanned := scanNumeral_minus (Nat.toDigits 10 number ++ rest)
  rw [scanWhole_toDigits number ends, Option.map_some,
    numeralFrom_toDigits true number ends] at scanned
  obtain ⟨c, later, digits, digit⟩ := exists_toDigits number
  have noLiteral : scanLiteral ('-' :: (Nat.toDigits 10 number ++ rest)) = none := by
    rw [digits]
    exact (scanLiteral_of_isDigit digit _).2
  rw [scan_of_word rfl (by decide), scanWord, noLiteral, scanned]

/-- A printed integer is scanned as its numeral. -/
theorem scan_toString (value : Int) (ends : EndsNumeral rest) :
    scan ((toString value).toList ++ rest) = (.numeral (Numeral.ofInt value), rest) := by
  rw [toList_toString]
  by_cases negative : value < 0
  · have scanned := scan_minus_toDigits value.natAbs ends
    simpa [Numeral.ofInt, negative] using scanned
  · have scanned := scan_toDigits value.natAbs ends
    simpa [Numeral.ofInt, negative] using scanned

end Scan

/-- The numeral of an integer has the integer as its value, unless it has too many digits. -/
theorem Numeral.value_ofInt (value : Int) :
    (Numeral.ofInt value).value =
      if digitLimit < (Nat.toDigits 10 value.natAbs).length then
        .error (Nat.toDigits 10 value.natAbs).length
      else .ok (.integer value) := by
  have magnitude : (if value < 0 then -(value.natAbs : Int) else value.natAbs) = value := by omega
  simp only [Numeral.value, ofInt, List.isEmpty_nil, Option.isNone_none, Bool.and_self,
    ↓reduceIte, digitsValue_toDigits, decide_eq_true_eq, magnitude]

end AbiTypings.Json
