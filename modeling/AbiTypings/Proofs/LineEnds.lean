import AbiTypings.Proofs.Encoding
import AbiTypings.Proofs.Tokens
import AbiTypings.Proofs.Traversal

/-!
# Line ends

A text means the same whichever way its lines end. Between tokens a carriage return is a blank like
the line feed that it becomes; inside a token it makes the same fault as a line feed, because
neither may stand there. So unifying the line ends commutes with cutting the text into tokens: the
tokens are the same except for the places that they know, and only the place of a complaint can
change.
-/

namespace AbiTypings

open Text (unifyNewlines unifyNewlines_cons exists_unifyNewlines_return dropWhile_unifyNewlines
  takeWhile_unifyNewlines isPrefixOf?_unifyNewlines head?_unifyNewlines_ne isEmpty_unifyNewlines
  length_unifyNewlines_le)

namespace Json

/-- What was cut from a text, with the line ends of the rest unified. -/
def unifyRest {α : Type} (cut : α × List Char) : α × List Char := (cut.1, unifyNewlines cut.2)

/-- The first result is the same where each item has the same result. -/
theorem findSome?_congr {α β : Type} {items : List α} {find other : α → Option β}
    (same : ∀ item ∈ items, find item = other item) :
    items.findSome? find = items.findSome? other := by
  induction items with
  | nil => rfl
  | cons item rest ih =>
    have later := ih fun next member => same next (List.mem_cons_of_mem _ member)
    rw [List.findSome?_cons, List.findSome?_cons, same item List.mem_cons_self, later]

/-! ## Numerals and literals -/

/-- Digits are cut alike. -/
theorem scanDigits_unifyNewlines (chars : List Char) :
    scanDigits (unifyNewlines chars) = (scanDigits chars).map unifyRest := by
  have taken : (unifyNewlines chars).takeWhile isDigit = chars.takeWhile isDigit :=
    takeWhile_unifyNewlines rfl rfl chars
  have left : (unifyNewlines chars).dropWhile isDigit = unifyNewlines (chars.dropWhile isDigit) :=
    dropWhile_unifyNewlines rfl chars
  rw [scanDigits, scanDigits, taken, left]
  cases chars.takeWhile isDigit <;> rfl

/-- The digits before the point are cut alike. -/
theorem scanWhole_unifyNewlines (chars : List Char) :
    scanWhole (unifyNewlines chars) = (scanWhole chars).map unifyRest := by
  by_cases zero : chars.head? = some '0'
  · obtain ⟨rest, rfl⟩ := List.head?_eq_some_iff.mp zero
    rw [unifyNewlines_cons (by decide)]
    rfl
  · have noZero := head?_unifyNewlines_ne (by decide) zero
    rw [scanWhole_of_ne zero, scanWhole_of_ne noZero, scanDigits_unifyNewlines]

/-- A fraction is cut alike. -/
theorem scanFraction_unifyNewlines (chars : List Char) :
    scanFraction (unifyNewlines chars) = unifyRest (scanFraction chars) := by
  by_cases point : chars.head? = some '.'
  · obtain ⟨rest, rfl⟩ := List.head?_eq_some_iff.mp point
    rw [unifyNewlines_cons (by decide), scanFraction, scanFraction, scanDigits_unifyNewlines]
    cases scanDigits rest with
    | none =>
      change ([], '.' :: unifyNewlines rest) = ([], unifyNewlines ('.' :: rest))
      rw [unifyNewlines_cons (by decide)]
    | some found => rfl
  · have noPoint := head?_unifyNewlines_ne (by decide) point
    rw [scanFraction_of_ne point, scanFraction_of_ne noPoint]
    rfl

/-- A sign is cut alike. -/
theorem scanSign_unifyNewlines (chars : List Char) :
    scanSign (unifyNewlines chars) = unifyRest (scanSign chars) := by
  by_cases minus : chars.head? = some '-'
  · obtain ⟨rest, rfl⟩ := List.head?_eq_some_iff.mp minus
    rw [unifyNewlines_cons (by decide)]
    rfl
  · by_cases plus : chars.head? = some '+'
    · obtain ⟨rest, rfl⟩ := List.head?_eq_some_iff.mp plus
      rw [unifyNewlines_cons (by decide)]
      rfl
    · have noMinus := head?_unifyNewlines_ne (by decide) minus
      have noPlus := head?_unifyNewlines_ne (by decide) plus
      rw [scanSign_of_ne minus plus, scanSign_of_ne noMinus noPlus]
      rfl

/-- An exponent is cut alike. -/
theorem scanExponent_unifyNewlines (chars : List Char) :
    scanExponent (unifyNewlines chars) = unifyRest (scanExponent chars) := by
  have marked (mark : Char) (exponential : mark = 'e' ∨ mark = 'E') (kept : mark ≠ '\r')
      (rest : List Char) : scanExponent (unifyNewlines (mark :: rest)) =
        unifyRest (scanExponent (mark :: rest)) := by
    rw [unifyNewlines_cons kept, scanExponent, scanExponent, if_pos exponential,
      if_pos exponential, scanSign_unifyNewlines]
    dsimp only [unifyRest]
    rw [scanDigits_unifyNewlines]
    cases scanDigits (scanSign rest).2 with
    | none =>
      change (none, mark :: unifyNewlines rest) = (none, unifyNewlines (mark :: rest))
      rw [unifyNewlines_cons kept]
    | some found => rfl
  by_cases small : chars.head? = some 'e'
  · obtain ⟨rest, rfl⟩ := List.head?_eq_some_iff.mp small
    exact marked 'e' (.inl rfl) (by decide) rest
  · by_cases large : chars.head? = some 'E'
    · obtain ⟨rest, rfl⟩ := List.head?_eq_some_iff.mp large
      exact marked 'E' (.inr rfl) (by decide) rest
    · have noSmall := head?_unifyNewlines_ne (by decide) small
      have noLarge := head?_unifyNewlines_ne (by decide) large
      rw [scanExponent_of_ne small large, scanExponent_of_ne noSmall noLarge]
      rfl

/-- What follows the digits of a numeral is cut alike. -/
theorem numeralFrom_unifyRest (negative : Bool) (found : List Char × List Char) :
    numeralFrom negative (unifyRest found) = unifyRest (numeralFrom negative found) := by
  simp only [numeralFrom, unifyRest, scanFraction_unifyNewlines, scanExponent_unifyNewlines]

/-- A numeral is cut alike. -/
theorem scanNumeral_unifyNewlines (chars : List Char) :
    scanNumeral (unifyNewlines chars) = (scanNumeral chars).map unifyRest := by
  have followed (negative : Bool) (digits : List Char) :
      ((scanWhole digits).map unifyRest).map (numeralFrom negative) =
        ((scanWhole digits).map (numeralFrom negative)).map unifyRest := by
    cases scanWhole digits with
    | none => rfl
    | some found => exact congrArg some (numeralFrom_unifyRest negative found)
  by_cases minus : chars.head? = some '-'
  · obtain ⟨digits, rfl⟩ := List.head?_eq_some_iff.mp minus
    rw [unifyNewlines_cons (by decide), scanNumeral_minus, scanNumeral_minus,
      scanWhole_unifyNewlines, followed]
  · have noMinus := head?_unifyNewlines_ne (by decide) minus
    rw [scanNumeral_of_ne minus, scanNumeral_of_ne noMinus, scanWhole_unifyNewlines, followed]

/-- A literal is cut alike. -/
theorem scanLiteral_unifyNewlines (chars : List Char) :
    scanLiteral (unifyNewlines chars) = (scanLiteral chars).map unifyRest := by
  have noLineEnds : ∀ literal ∈ literals, '\r' ∉ literal.1 ∧ '\n' ∉ literal.1 := by
    simp [literals]
  rw [scanLiteral, scanLiteral, List.map_findSome?]
  apply findSome?_congr
  rintro ⟨word, value⟩ member
  obtain ⟨noReturn, noFeed⟩ := noLineEnds _ member
  have found := isPrefixOf?_unifyNewlines noReturn noFeed chars
  simp only [found, Function.comp_apply]
  cases word.isPrefixOf? chars <;> rfl

/-! ## Texts -/

/-- Two flaws have the same complaint, at places that may differ. -/
def Flaw.Alike (flaw other : Flaw) : Prop := flaw.complaint = other.complaint

/-- Reading stands in the same way inside a text. -/
inductive TextState.Alike : TextState → TextState → Prop where
  | plain : Alike .plain .plain
  | escape (start other : List Char) : Alike (.escape start) (.escape other)
  | unit (start other : List Char) (left value : Nat) :
    Alike (.unit start left value) (.unit other left value)

/-- A text is read alike: a carriage return inside it is as much of a fault as a line feed. -/
theorem scanText_unifyNewlines (opening other : List Char) {state otherState : TextState}
    (alike : state.Alike otherState) (chars : List Char) :
    Related Flaw.Alike (fun read otherRead => unifyRest read = otherRead)
      (scanText opening state chars) (scanText other otherState (unifyNewlines chars)) := by
  have pushed (unit : Nat) (read otherRead : List Nat × List Char)
      (same : unifyRest read = otherRead) : unifyRest (push unit read) = push unit otherRead := by
    rw [← same]
    rfl
  induction chars generalizing state otherState with
  | nil => cases alike <;> exact .error rfl
  | cons c rest ih =>
    by_cases isReturn : c = '\r'
    · subst isReturn
      obtain ⟨tail, unified⟩ := exists_unifyNewlines_return rest
      rw [unified]
      -- every state refuses a line feed with the complaint that it has about a carriage return
      cases alike <;> exact .error rfl
    · rw [unifyNewlines_cons isReturn]
      cases alike with
      | plain =>
        rw [scanText, scanText]
        split
        · exact .ok rfl
        · split
          · exact ih (.escape _ _)
          · split
            · exact .error rfl
            · exact (ih .plain).map (pushed _)
      | escape start otherStart =>
        rw [scanText, scanText]
        split
        · exact ih (.unit _ _ _ _)
        · split
          · exact (ih .plain).map (pushed _)
          · exact .error rfl
      | unit start otherStart left value =>
        rw [scanText, scanText, isEmpty_unifyNewlines]
        split
        · exact .error rfl
        · split
          · split
            · exact .error rfl
            · exact (ih .plain).map (pushed _)
          · exact ih (.unit _ _ _ _)

/-! ## Tokens -/

/-- Two tokens say the same, up to the place of a complaint. -/
inductive Lexeme.Alike : Lexeme → Lexeme → Prop where
  | same (lexeme : Lexeme) : Alike lexeme lexeme
  | flawed {flaw other : Flaw} (alike : flaw.Alike other) : Alike (.flawed flaw) (.flawed other)

/-- Two tokens say the same, at places that may differ. -/
def Token.Alike (token other : Token) : Prop := token.lexeme.Alike other.lexeme

/-- A word is cut alike. -/
theorem scanWord_unifyNewlines (chars : List Char) :
    scanWord (unifyNewlines chars) = unifyRest (scanWord chars) := by
  rw [scanWord, scanWord, scanLiteral_unifyNewlines, scanNumeral_unifyNewlines]
  cases scanLiteral chars with
  | some found => rfl
  | none => cases scanNumeral chars <;> rfl

/-- A token that does not start with a carriage return is cut alike. -/
theorem scan_unifyNewlines {c : Char} (kept : c ≠ '\r') (rest : List Char) :
    (scan (c :: rest)).1.Alike (scan (c :: unifyNewlines rest)).1 ∧
      unifyNewlines (scan (c :: rest)).2 = (scan (c :: unifyNewlines rest)).2 := by
  cases mark : punctuation? c with
  | some lexeme =>
    rw [scan_of_punctuation mark, scan_of_punctuation mark]
    exact ⟨.same lexeme, rfl⟩
  | none =>
    by_cases quote : c = '"'
    · subst quote
      rw [scan_quote, scan_quote, scanQuoted, scanQuoted]
      have read := scanText_unifyNewlines ('"' :: rest) ('"' :: unifyNewlines rest) .plain rest
      generalize scanText ('"' :: rest) .plain rest = outcome,
        scanText ('"' :: unifyNewlines rest) .plain (unifyNewlines rest) = otherOutcome at read
      cases read with
      | ok same =>
        rw [← same]
        exact ⟨.same _, rfl⟩
      | error alike => exact ⟨.flawed alike, rfl⟩
    · rw [scan_of_word mark quote, scan_of_word mark quote, ← unifyNewlines_cons kept,
        scanWord_unifyNewlines]
      exact ⟨.same _, rfl⟩

/-- The tokens of a text are cut alike. -/
theorem tokensUpTo_unifyNewlines (count : Nat) (chars : List Char) :
    List.Forall₂ Token.Alike (tokensUpTo count chars) (tokensUpTo count (unifyNewlines chars)) := by
  induction count generalizing chars with
  | zero => exact .nil
  | succ count ih =>
    have blanks : (unifyNewlines chars).dropWhile isBlank =
        unifyNewlines (chars.dropWhile isBlank) := dropWhile_unifyNewlines rfl chars
    rw [tokensUpTo, tokensUpTo, blanks]
    cases found : chars.dropWhile isBlank with
    | nil => exact .nil
    | cons c rest =>
      have noBlank : isBlank c ≠ true := by
        have head := List.head?_dropWhile_not isBlank chars
        rw [found] at head
        simpa using head
      have kept : c ≠ '\r' := by
        rintro rfl
        contradiction
      obtain ⟨alike, left⟩ := scan_unifyNewlines kept rest
      rw [unifyNewlines_cons kept]
      dsimp only
      rw [← left]
      exact .cons alike (ih _)

/-- A text has the same tokens whichever way its lines end. -/
theorem tokens_unifyNewlines (chars : List Char) :
    List.Forall₂ Token.Alike (tokens chars) (tokens (unifyNewlines chars)) := by
  rw [← tokensUpTo_of_length_le (length_unifyNewlines_le chars)]
  exact tokensUpTo_unifyNewlines chars.length chars

/-! ## Reading -/

/-- Two refusals have the same cause, at places that may differ. -/
inductive Refusal.Alike : Refusal → Refusal → Prop where
  | flawed {flaw other : Flaw} (alike : flaw.Alike other) : Alike (.flawed flaw) (.flawed other)
  | longInteger (digits : Nat) : Alike (.longInteger digits) (.longInteger digits)

/-- A refusal is alike itself. -/
theorem Refusal.Alike.refl (refusal : Refusal) : refusal.Alike refusal := by
  cases refusal with
  | flawed flaw => exact .flawed rfl
  | longInteger digits => exact .longInteger digits

section Steps

variable {token other : Token} (alike : token.Alike other)

include alike

/-- Tokens that say the same start the same value. -/
theorem start_alike (state : State) (outer : List Frame) :
    Related Refusal.Alike Eq (start state outer token) (start state outer other) := by
  obtain ⟨lexeme, place⟩ := token
  obtain ⟨otherLexeme, otherPlace⟩ := other
  cases alike with
  | flawed flaw => exact .error (.flawed flaw)
  | same => cases lexeme with
    | numeral numeral =>
      rw [start, start]
      exact Related.refl .refl _
    | openObject | openArray | literal | text => exact .ok rfl
    | flawed | closeObject | closeArray | comma | colon | stray => exact .error (.flawed rfl)

/-- Tokens that say the same are the same name. -/
theorem named_alike (state : State) (held : List (String × Json)) (outer : List Frame) :
    Related Refusal.Alike Eq (named state held outer token) (named state held outer other) := by
  obtain ⟨lexeme, place⟩ := token
  obtain ⟨otherLexeme, otherPlace⟩ := other
  cases alike with
  | flawed flaw => exact .error (.flawed flaw)
  | same => cases lexeme with
    | text name => exact .ok rfl
    | _ => exact .error (.flawed rfl)

/-- Tokens that say the same lead to the same state. -/
theorem step_alike (state : State) :
    Related Refusal.Alike Eq (step state token) (step state other) := by
  have starts := start_alike alike
  have names := named_alike alike
  obtain ⟨lexeme, place⟩ := token
  obtain ⟨otherLexeme, otherPlace⟩ := other
  cases alike with
  | flawed flaw => cases state with
    -- a state that expects a value or a name passes on what is wrong with the text
    | value | firstItem | firstName | nextName => exact .error (.flawed flaw)
    | afterItem | afterName | afterMember | finished => exact .error (.flawed rfl)
  | same => cases state with
    | value outer => exact starts (.value outer) outer
    | nextName held outer => exact names (.nextName held outer) held outer
    | firstItem outer => cases lexeme with
      | closeArray => exact .ok rfl
      | _ => exact starts (.firstItem outer) (.items [] :: outer)
    | firstName outer => cases lexeme with
      | closeObject => exact .ok rfl
      | _ => exact names (.firstName outer) [] outer
    | afterItem held outer => cases lexeme with
      | comma | closeArray => exact .ok rfl
      | _ => exact .error (.flawed rfl)
    | afterMember held outer => cases lexeme with
      | comma | closeObject => exact .ok rfl
      | _ => exact .error (.flawed rfl)
    | afterName held name outer => cases lexeme with
      | colon => exact .ok rfl
      | _ => exact .error (.flawed rfl)
    | finished value => exact .error (.flawed rfl)

end Steps

/-- Tokens that say the same make the same value. -/
theorem readTokens_alike {source others : List Token}
    (alike : List.Forall₂ Token.Alike source others) :
    Related Refusal.Alike Eq (readTokens source) (readTokens others) := by
  have stepped (state : State) (token other : Token) (pair : token.Alike other) :=
    step_alike pair state
  apply (Related.foldlM stepped alike (.value [])).bind
  rintro state _ rfl
  exact Related.refl .refl state.result

/-- A text without a byte order mark is read by its tokens. -/
theorem read_of_ne {source : List Char} (noMark : source.head? ≠ some '\uFEFF') :
    read source = readTokens (tokens source) := by
  rw [read]
  rintro rest rfl
  exact noMark rfl

/-- A text is read alike whichever way its lines end. -/
theorem read_unifyNewlines (text : List Char) :
    Related Refusal.Alike Eq (read text) (read (unifyNewlines text)) := by
  by_cases mark : text.head? = some '\uFEFF'
  · obtain ⟨rest, rfl⟩ := List.head?_eq_some_iff.mp mark
    rw [unifyNewlines_cons (by decide)]
    exact .error (.flawed rfl)
  · have noMark := head?_unifyNewlines_ne (by decide) mark
    rw [read_of_ne mark, read_of_ne noMark]
    exact readTokens_alike (tokens_unifyNewlines text)

end Json

/-! ## Loading -/

/-- Two faults are the same but for the place of a complaint about the text. -/
inductive Fault.Alike : Fault → Fault → Prop where
  | same (fault : Fault) : Alike fault fault
  | moved (complaint : Json.Complaint) (place other : Json.Place) :
    Alike (.malformed (.notJson complaint place)) (.malformed (.notJson complaint other))

namespace Abi

/-- The JSON value of a text is the same whichever way its lines end. -/
theorem jsonOfText_unifyNewlines (text : List Char) :
    Related Fault.Alike Eq (jsonOfText text) (jsonOfText (unifyNewlines text)) := by
  have readAlike := Json.read_unifyNewlines text
  rw [jsonOfText, jsonOfText]
  generalize Json.read text = outcome, Json.read (unifyNewlines text) = other at readAlike
  cases readAlike with
  | ok same => exact .ok same
  | error alike => cases alike with
    | longInteger digits => exact .error (.same (.longInteger digits))
    | flawed sameComplaint =>
      dsimp only [Except.mapError]
      rw [sameComplaint]
      exact .error (.moved _ _ _)

/-- A text describes the same ABI whichever way its lines end. -/
theorem parse_unifyNewlines (text : List Char) :
    Related Fault.Alike Eq (parse text) (parse (unifyNewlines text)) := by
  apply (jsonOfText_unifyNewlines text).bind
  rintro value _ rfl
  exact Related.refl .same (ofJson value)

/-- A text in a file describes what it describes by itself: loading the file has the ABI of the
text, or a fault that only differs in its place. -/
theorem parse_load_alike (text : String) :
    Related Fault.Alike Eq (parse text.toList) (load (Text.Utf8.encode text)) := by
  rw [load_encode]
  exact parse_unifyNewlines text.toList

/-- The place after a carriage return and a line feed is one character nearer in a file. -/
example :
    parse "[\r\n,".toList = .error (.malformed (.notJson .valueExpected ⟨2, 1, 3⟩)) ∧
      load (Text.Utf8.encode "[\r\n,") =
        .error (.malformed (.notJson .valueExpected ⟨2, 1, 2⟩)) := by
  constructor <;> rfl

end Abi
end AbiTypings
