/-!
# Control sequences of terminals

A control sequence tells a terminal how to show what follows it, in a colour for instance. It is the
escape character, an opening bracket, any parameters, any intermediate characters and one final
character. A text that is not meant for a terminal is written without them.
-/

namespace AbiTypings.Text

/-- The character that starts a control sequence. -/
def escape : Char := '\x1b'

/-- Whether a character belongs to the parameters. -/
def isParameter (c : Char) : Bool := '0' ≤ c && c ≤ '?'

/-- Whether a character may stand between the parameters and the final character. -/
def isIntermediate (c : Char) : Bool := ' ' ≤ c && c ≤ '/'

/-- Whether a character ends a control sequence. -/
def isFinal (c : Char) : Bool := '@' ≤ c && c ≤ '~'

/-- What follows the rest of a control sequence, whose escape character has been read. -/
def afterSequence? : List Char → Option (List Char)
  | '[' :: rest =>
    match (rest.dropWhile isParameter).dropWhile isIntermediate with
    | c :: after => if isFinal c then some after else none
    | [] => none
  | _ => none

/-- What follows a control sequence is shorter. -/
theorem length_afterSequence?_lt {text after : List Char}
    (found : afterSequence? text = some after) : after.length < text.length := by
  unfold afterSequence? at found
  split at found
  · rename_i rest
    have parameters := (List.dropWhile_sublist isParameter (l := rest)).length_le
    have intermediates :=
      (List.dropWhile_sublist isIntermediate (l := rest.dropWhile isParameter)).length_le
    split at found
    · rename_i c tail dropped
      rw [dropped] at intermediates
      split at found
      · cases found
        simp only [List.length_cons] at intermediates ⊢
        omega
      · contradiction
    · contradiction
  · contradiction

/-- A text without its control sequences. -/
def withoutSequences : List Char → List Char
  | [] => []
  | c :: rest =>
    if c = escape then
      match _found : afterSequence? rest with
      | some after => withoutSequences after
      | none => c :: withoutSequences rest
    else c :: withoutSequences rest
termination_by text => text.length
decreasing_by
  · have shorter := length_afterSequence?_lt _found
    simp only [List.length_cons]
    omega
  · simp
  · simp

end AbiTypings.Text
