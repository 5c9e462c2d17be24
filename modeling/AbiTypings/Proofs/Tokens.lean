import AbiTypings.Json.Token
import Mathlib.Data.List.Basic

/-!
# Cutting text into tokens

Every token takes at least its first character from the text, so a text has at most as many tokens
as characters, and `tokens` cuts all of them: asking for more tokens than there are characters
changes nothing (`tokensUpTo_of_length_le`).
-/

namespace AbiTypings.Json

/-! ## What is left of a text -/

/-- Digits take at least one character. -/
theorem length_of_scanDigits {chars digits rest : List Char}
    (scanned : scanDigits chars = some (digits, rest)) : rest.length < chars.length := by
  unfold scanDigits at scanned
  split at scanned
  · contradiction
  · rename_i nonempty
    obtain ⟨-, rfl⟩ := Prod.mk.inj (Option.some.inj scanned)
    have taken : 0 < (chars.takeWhile isDigit).length := List.length_pos_iff.mpr nonempty
    have whole : (chars.takeWhile isDigit).length + (chars.dropWhile isDigit).length =
        chars.length := by
      rw [← List.length_append, List.takeWhile_append_dropWhile]
    omega

/-- Unless there is a zero, all digits stand before the point. -/
theorem scanWhole_of_ne {chars : List Char} (noZero : chars.head? ≠ some '0') :
    scanWhole chars = scanDigits chars := by
  unfold scanWhole
  split
  · simp at noZero
  · rfl

/-- The digits before the point take at least one character. -/
theorem length_of_scanWhole {chars digits rest : List Char}
    (scanned : scanWhole chars = some (digits, rest)) : rest.length < chars.length := by
  by_cases zero : chars.head? = some '0'
  · obtain ⟨later, rfl⟩ := List.head?_eq_some_iff.mp zero
    obtain ⟨-, rfl⟩ := Prod.mk.inj (Option.some.inj scanned)
    exact Nat.lt_succ_self _
  · rw [scanWhole_of_ne zero] at scanned
    exact length_of_scanDigits scanned

/-- Without a point there is no fraction. -/
theorem scanFraction_of_ne {chars : List Char} (noPoint : chars.head? ≠ some '.') :
    scanFraction chars = ([], chars) := by
  unfold scanFraction
  split
  · simp at noPoint
  · rfl

/-- A fraction gives no character back. -/
theorem length_scanFraction_le (chars : List Char) :
    (scanFraction chars).2.length ≤ chars.length := by
  by_cases point : chars.head? = some '.'
  · obtain ⟨rest, rfl⟩ := List.head?_eq_some_iff.mp point
    rw [scanFraction]
    cases scanned : scanDigits rest with
    | none => exact Nat.le_refl _
    | some found => exact Nat.le_succ_of_le (Nat.le_of_lt (length_of_scanDigits scanned))
  · simp only [scanFraction_of_ne point, Nat.le_refl]

/-- A sign is a minus or a plus. -/
theorem scanSign_of_ne {chars : List Char} (noMinus : chars.head? ≠ some '-')
    (noPlus : chars.head? ≠ some '+') : scanSign chars = (false, chars) := by
  unfold scanSign
  split
  · simp at noMinus
  · simp at noPlus
  · rfl

/-- A sign gives no character back. -/
theorem length_scanSign_le (chars : List Char) : (scanSign chars).2.length ≤ chars.length := by
  unfold scanSign
  split
  · exact Nat.le_succ _
  · exact Nat.le_succ _
  · exact Nat.le_refl _

/-- Without its mark there is no exponent. -/
theorem scanExponent_of_ne {chars : List Char} (noSmall : chars.head? ≠ some 'e')
    (noLarge : chars.head? ≠ some 'E') : scanExponent chars = (none, chars) := by
  cases chars with
  | nil => rfl
  | cons mark rest =>
    rw [scanExponent, if_neg]
    rintro (rfl | rfl)
    · exact noSmall rfl
    · exact noLarge rfl

/-- An exponent gives no character back. -/
theorem length_scanExponent_le (chars : List Char) :
    (scanExponent chars).2.length ≤ chars.length := by
  cases chars with
  | nil => exact Nat.le_refl _
  | cons mark rest =>
    have unsigned := length_scanSign_le rest
    rw [scanExponent]
    split
    · dsimp only
      split
      · rename_i scanned
        have shorter := length_of_scanDigits scanned
        rw [List.length_cons]
        dsimp only
        omega
      · exact Nat.le_refl _
    · exact Nat.le_refl _

/-- The numeral that starts with the given digits, and the text after it. -/
def numeralFrom (negative : Bool) (found : List Char × List Char) : Numeral × List Char :=
  let fraction := scanFraction found.2
  let exponent := scanExponent fraction.2
  (⟨negative, found.1, fraction.1, exponent.1⟩, exponent.2)

/-- After a minus sign the digits decide whether there is a numeral. -/
theorem scanNumeral_minus (rest : List Char) :
    scanNumeral ('-' :: rest) = (scanWhole rest).map (numeralFrom true) := by
  cases found : scanWhole rest with
  | none => simp [scanNumeral, found]
  | some digits => simp [scanNumeral, found, numeralFrom]

/-- Without a minus sign the digits decide whether there is a numeral. -/
theorem scanNumeral_of_ne {chars : List Char} (unsigned : chars.head? ≠ some '-') :
    scanNumeral chars = (scanWhole chars).map (numeralFrom false) := by
  unfold scanNumeral
  split
  rename_i negative digits signed
  split at signed
  · simp at unsigned
  · obtain ⟨rfl, rfl⟩ := Prod.mk.inj signed
    cases scanWhole chars with
    | none => rfl
    | some found => rfl

/-- A numeral takes at least one character. -/
theorem length_of_scanNumeral {chars rest : List Char} {numeral : Numeral}
    (scanned : scanNumeral chars = some (numeral, rest)) : rest.length < chars.length := by
  have shorter (negative : Bool) (digits : List Char)
      (found : (scanWhole digits).map (numeralFrom negative) = some (numeral, rest)) :
      rest.length < digits.length := by
    obtain ⟨⟨whole, later⟩, wholeFound, same⟩ := Option.map_eq_some_iff.mp found
    obtain ⟨-, rfl⟩ := Prod.mk.inj same
    calc (scanExponent (scanFraction later).2).2.length
      _ ≤ (scanFraction later).2.length := length_scanExponent_le _
      _ ≤ later.length := length_scanFraction_le later
      _ < digits.length := length_of_scanWhole wholeFound
  by_cases minus : chars.head? = some '-'
  · obtain ⟨digits, rfl⟩ := List.head?_eq_some_iff.mp minus
    rw [scanNumeral_minus] at scanned
    exact Nat.lt_succ_of_lt (shorter true digits scanned)
  · rw [scanNumeral_of_ne minus] at scanned
    exact shorter false chars scanned

/-- No literal is empty. -/
theorem ne_nil_of_mem_literals {word : List Char} {value : Json}
    (member : (word, value) ∈ literals) : word ≠ [] := by
  rintro rfl
  simp [literals] at member

/-- A literal takes at least one character. -/
theorem length_of_scanLiteral {chars rest : List Char} {value : Json}
    (scanned : scanLiteral chars = some (value, rest)) : rest.length < chars.length := by
  obtain ⟨⟨word, held⟩, member, found⟩ := List.exists_of_findSome?_eq_some scanned
  obtain ⟨after, isPrefix, same⟩ := Option.map_eq_some_iff.mp found
  obtain ⟨-, rfl⟩ := Prod.mk.inj same
  have split := List.isPrefixOf?_eq_some_iff_append_eq.mp isPrefix
  have taken := List.length_pos_iff.mpr (ne_nil_of_mem_literals member)
  rw [← split, List.length_append]
  omega

/-- A text takes at least its closing quote. -/
theorem length_of_scanText {opening chars rest : List Char} {state : TextState} {units : List Nat}
    (scanned : scanText opening state chars = .ok (units, rest)) : rest.length < chars.length := by
  -- one more character before a text that was read, whatever it adds to the units
  have pushed {unit : Nat} {outcome : Except Flaw (List Nat × List Char)} {units : List Nat}
      (found : outcome.map (push unit) = .ok (units, rest)) :
      ∃ others, outcome = .ok (others, rest) := by
    cases outcome with
    | error flaw => contradiction
    | ok read =>
      obtain ⟨-, rfl⟩ := Prod.mk.inj (Except.ok.inj found)
      exact ⟨read.1, rfl⟩
  fun_induction scanText opening state chars generalizing units with
  | case2 =>
    obtain ⟨-, rfl⟩ := Prod.mk.inj (Except.ok.inj scanned)
    exact Nat.lt_succ_self _
  | case3 _ _ ih => exact Nat.lt_succ_of_lt (ih scanned)
  | case5 _ _ _ _ _ ih =>
    obtain ⟨_, found⟩ := pushed scanned
    exact Nat.lt_succ_of_lt (ih found)
  | case7 _ _ ih => exact Nat.lt_succ_of_lt (ih scanned)
  | case8 _ _ _ _ _ _ ih =>
    obtain ⟨_, found⟩ := pushed scanned
    exact Nat.lt_succ_of_lt (ih found)
  | case13 _ _ _ _ _ _ _ _ _ ih =>
    obtain ⟨_, found⟩ := pushed scanned
    exact Nat.lt_succ_of_lt (ih found)
  | case14 _ _ _ _ _ _ _ _ ih => exact Nat.lt_succ_of_lt (ih scanned)
  | _ => contradiction

/-- The token that a punctuation mark is. -/
def punctuation? : Char → Option Lexeme
  | '\x7b' => some .openObject
  | '\x7d' => some .closeObject
  | '[' => some .openArray
  | ']' => some .closeArray
  | ',' => some .comma
  | ':' => some .colon
  | _ => none

/-- The token of a text after its opening quote. -/
def scanQuoted (rest : List Char) : Lexeme × List Char :=
  match scanText ('"' :: rest) .plain rest with
  | .ok (units, after) => (.text (textOfUnits units), after)
  | .error flaw => (.flawed flaw, [])

/-- The token of a text that starts neither with a punctuation mark nor with a quote. -/
def scanWord (chars : List Char) : Lexeme × List Char :=
  match scanLiteral chars with
  | some (value, after) => (.literal value, after)
  | none =>
    match scanNumeral chars with
    | some (numeral, after) => (.numeral numeral, after)
    | none => (.stray, [])

/-- A punctuation mark is a token of its own. -/
theorem scan_of_punctuation {c : Char} {lexeme : Lexeme} (mark : punctuation? c = some lexeme)
    (rest : List Char) : scan (c :: rest) = (lexeme, rest) := by
  unfold punctuation? at mark
  split at mark <;> cases mark <;> rfl

/-- A quote opens a text. -/
theorem scan_quote (rest : List Char) : scan ('"' :: rest) = scanQuoted rest := rfl

/-- Any other character starts a literal or a numeral, if any token. -/
theorem scan_of_word {c : Char} (noMark : punctuation? c = none) (noQuote : c ≠ '"')
    (rest : List Char) : scan (c :: rest) = scanWord (c :: rest) := by
  unfold scan
  split
  case h_8 => rfl
  all_goals simp_all [punctuation?]

/-- A token takes at least its first character. -/
theorem length_scan_le (c : Char) (rest : List Char) :
    (scan (c :: rest)).2.length ≤ rest.length := by
  cases mark : punctuation? c with
  | some lexeme =>
    simp only [scan_of_punctuation mark, Nat.le_refl]
  | none =>
    by_cases quote : c = '"'
    · subst quote
      rw [scan_quote, scanQuoted]
      split
      · rename_i scanned
        exact Nat.le_of_lt (length_of_scanText scanned)
      · exact Nat.zero_le _
    · rw [scan_of_word mark quote, scanWord]
      split
      · rename_i literal
        exact Nat.le_of_lt_succ (length_of_scanLiteral literal)
      · split
        · rename_i numeral
          exact Nat.le_of_lt_succ (length_of_scanNumeral numeral)
        · exact Nat.zero_le _

/-! ## Enough tokens -/

/-- Two limits cut the same tokens if neither is below the number of characters. -/
theorem tokensUpTo_congr {chars : List Char} {count other : Nat} (enough : chars.length ≤ count)
    (otherEnough : chars.length ≤ other) : tokensUpTo count chars = tokensUpTo other chars := by
  induction count generalizing other chars with
  | zero =>
    obtain rfl := List.length_eq_zero_iff.mp (Nat.le_zero.mp enough)
    cases other <;> rfl
  | succ count ih =>
    cases other with
    | zero =>
      obtain rfl := List.length_eq_zero_iff.mp (Nat.le_zero.mp otherEnough)
      rfl
    | succ other =>
      have blanks := (List.dropWhile_suffix isBlank (l := chars)).length_le
      rw [tokensUpTo, tokensUpTo]
      cases found : chars.dropWhile isBlank with
      | nil => rfl
      | cons c rest =>
        rw [found, List.length_cons] at blanks
        have left := length_scan_le c rest
        have later : tokensUpTo count (scan (c :: rest)).2 =
            tokensUpTo other (scan (c :: rest)).2 := ih (by omega) (by omega)
        dsimp only
        rw [later]

/-- A text has no more tokens than characters. -/
theorem tokensUpTo_of_length_le {chars : List Char} {count : Nat} (enough : chars.length ≤ count) :
    tokensUpTo count chars = tokens chars :=
  tokensUpTo_congr enough (Nat.le_refl _)

end AbiTypings.Json
