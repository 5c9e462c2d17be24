import AbiTypings.Json.Reader
import AbiTypings.Proofs.Traversal

/-!
# Integers with too many digits

Reading JSON text stops at an integer with more digits than the limit allows, wherever a value may
start, if nothing before it is amiss. Every other refusal is a complaint about a place of the text.
-/

namespace AbiTypings.Json

/-- Reading a value may start in the state. -/
def State.takesValue : State → Bool
  | .value _ | .firstItem _ => true
  | _ => false

/-- A numeral is an integer with more digits than the limit allows. -/
structure Numeral.IsTooLong (numeral : Numeral) (digits : Nat) : Prop where
  noFraction : numeral.fraction = []
  noExponent : numeral.exponent = none
  length : numeral.whole.length = digits
  beyond : digitLimit < digits

/-- Among the tokens of a text stands an integer with too many digits where a value may start, and
the tokens before it are in place. -/
def MeetsLongInteger (source : List Char) (digits : Nat) : Prop :=
  source.head? ≠ some '\uFEFF' ∧
    ∃ before token after state numeral, tokens source = before ++ token :: after ∧
      before.foldlM step (.value []) = .ok state ∧ state.takesValue = true ∧
      token.lexeme = .numeral numeral ∧ numeral.IsTooLong digits

/-- A numeral has no value exactly when it is an integer with too many digits. -/
theorem Numeral.value_eq_error_iff {numeral : Numeral} {digits : Nat} :
    numeral.value = .error digits ↔ numeral.IsTooLong digits := by
  rw [value]
  constructor
  · intro failed
    split at failed
    · rename_i whole
      rw [Bool.and_eq_true, List.isEmpty_iff, Option.isNone_iff_eq_none] at whole
      split at failed
      · rename_i beyond
        obtain rfl := Except.error.inj failed
        exact ⟨whole.1, whole.2, rfl, beyond⟩
      · contradiction
    · contradiction
  · rintro ⟨noFraction, noExponent, rfl, beyond⟩
    simp [noFraction, noExponent, beyond]

/-- A step stops at an integer with too many digits where a value may start, and nowhere else. -/
theorem step_eq_longInteger_iff {state : State} {token : Token} {digits : Nat} :
    step state token = .error (.longInteger digits) ↔
      state.takesValue = true ∧
        ∃ numeral, token.lexeme = .numeral numeral ∧ numeral.IsTooLong digits := by
  obtain ⟨lexeme, place⟩ := token
  simp only [← Numeral.value_eq_error_iff]
  cases lexeme with
  | numeral numeral =>
    -- only a state that takes a value asks for the value of the numeral
    cases valued : numeral.value with
    | ok value =>
      cases state <;> simp [step, start, named, State.refuse, State.takesValue, valued]
    | error count =>
      cases state <;> simp [step, start, named, State.refuse, State.takesValue, valued]
  | _ => cases state <;> simp [step, start, named, State.refuse]

/-- The end of the text is never an integer. -/
theorem State.result_ne_longInteger (state : State) (digits : Nat) :
    state.result ≠ .error (.longInteger digits) := by
  cases state <;> simp [result]

/-- A text is refused for an integer with too many digits exactly when reading meets one. -/
theorem read_eq_longInteger_iff {source : List Char} {digits : Nat} :
    read source = .error (.longInteger digits) ↔ MeetsLongInteger source digits := by
  have run : readTokens (tokens source) = .error (.longInteger digits) ↔
      ∃ before token after state numeral, tokens source = before ++ token :: after ∧
        before.foldlM step (.value []) = .ok state ∧ state.takesValue = true ∧
        token.lexeme = .numeral numeral ∧ numeral.IsTooLong digits := by
    rw [readTokens, bind_eq_error_iff]
    constructor
    · rintro (stopped | ⟨state, -, ended⟩)
      · obtain ⟨before, token, after, state, split, reached, failed⟩ :=
          foldlM_eq_error_iff.mp stopped
        obtain ⟨ready, numeral, written, long⟩ := step_eq_longInteger_iff.mp failed
        exact ⟨before, token, after, state, numeral, split, reached, ready, written, long⟩
      · exact absurd ended (state.result_ne_longInteger digits)
    · rintro ⟨before, token, after, state, numeral, split, reached, ready, written, long⟩
      have failed := step_eq_longInteger_iff.mpr ⟨ready, numeral, written, long⟩
      exact .inl (foldlM_eq_error_iff.mpr ⟨before, token, after, state, split, reached, failed⟩)
  rw [MeetsLongInteger, ← run]
  unfold read
  split
  · simp
  · rename_i unmarked
    have noMark : source.head? ≠ some '\uFEFF' := by
      intro marked
      obtain ⟨rest, rfl⟩ := List.head?_eq_some_iff.mp marked
      exact unmarked rest rfl
    simp [noMark]

end AbiTypings.Json
