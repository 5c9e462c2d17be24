import AbiTypings.Json.Token

/-!
# Reading JSON text

The tokens of a text drive a machine that holds the containers opened and not yet closed. In each
state the machine expects certain tokens and complains about the place of any other one, so the
first token out of place decides the outcome. `read` is total: it returns a value, a located
complaint, or the number of digits of an integer that has too many.
-/

namespace AbiTypings.Json

/-- A container that is open while one of its values is read. -/
inductive Frame where
  /-- A list with the items read, the newest first. -/
  | items (held : List Json)
  /-- An object with the members read and the name of the value to come. -/
  | members (held : List (String × Json)) (name : String)

/-- What is expected next, inside the open containers. -/
inductive State where
  /-- A value. -/
  | value (outer : List Frame)
  /-- The first item of a list, or its end. -/
  | firstItem (outer : List Frame)
  /-- The comma after an item, or the end of the list. -/
  | afterItem (held : List Json) (outer : List Frame)
  /-- The first name of an object, or its end. -/
  | firstName (outer : List Frame)
  /-- The name of a further member. -/
  | nextName (held : List (String × Json)) (outer : List Frame)
  /-- The colon after a name. -/
  | afterName (held : List (String × Json)) (name : String) (outer : List Frame)
  /-- The comma after a member, or the end of the object. -/
  | afterMember (held : List (String × Json)) (outer : List Frame)
  /-- Nothing, because the value is complete. -/
  | finished (value : Json)

/-- What is said of a token that does not fit. -/
def State.complaint : State → Complaint
  | .value _ | .firstItem _ => .valueExpected
  | .afterItem _ _ | .afterMember _ _ => .commaExpected
  | .firstName _ | .nextName _ _ => .nameExpected
  | .afterName _ _ _ => .colonExpected
  | .finished _ => .extraData

/-- Why a text is not read. -/
inductive Refusal where
  /-- The text is no JSON at a place. -/
  | flawed (flaw : Flaw)
  /-- An integer has too many digits. -/
  | longInteger (digits : Nat)
deriving DecidableEq, Repr

/-- The state after a complete value inside the open containers. -/
def complete (value : Json) : List Frame → State
  | [] => .finished value
  | .items held :: outer => .afterItem (value :: held) outer
  | .members held name :: outer => .afterMember (assign name value held) outer

/-- The complaint of a state about a token. -/
def State.refuse (state : State) (token : Token) : Except Refusal State :=
  .error (.flawed ⟨state.complaint, token.place⟩)

/-- The state after a token with which a value starts. -/
def start (state : State) (outer : List Frame) (token : Token) : Except Refusal State :=
  match token.lexeme with
  | .openObject => .ok (.firstName outer)
  | .openArray => .ok (.firstItem outer)
  | .literal value => .ok (complete value outer)
  | .text value => .ok (complete (.text value) outer)
  | .numeral numeral =>
    match numeral.value with
    | .ok value => .ok (complete value outer)
    | .error digits => .error (.longInteger digits)
  | .flawed flaw => .error (.flawed flaw)
  | _ => state.refuse token

/-- The state after a token that should be the name of a member. -/
def named (state : State) (held : List (String × Json)) (outer : List Frame) (token : Token) :
    Except Refusal State :=
  match token.lexeme with
  | .text name => .ok (.afterName held name outer)
  | .flawed flaw => .error (.flawed flaw)
  | _ => state.refuse token

/-- The state after one more token. -/
def step (state : State) (token : Token) : Except Refusal State :=
  match state, token.lexeme with
  | .firstItem outer, .closeArray => .ok (complete (.array []) outer)
  | .firstItem outer, _ => start state (.items [] :: outer) token
  | .value outer, _ => start state outer token
  | .afterItem held outer, .comma => .ok (.value (.items held :: outer))
  | .afterItem held outer, .closeArray => .ok (complete (.array held.reverse) outer)
  | .firstName outer, .closeObject => .ok (complete (.object []) outer)
  | .firstName outer, _ => named state [] outer token
  | .nextName held outer, _ => named state held outer token
  | .afterName held name outer, .colon => .ok (.value (.members held name :: outer))
  | .afterMember held outer, .comma => .ok (.nextName held outer)
  | .afterMember held outer, .closeObject => .ok (complete (.object held) outer)
  | _, _ => state.refuse token

/-- The value at the end of the text. -/
def State.result : State → Except Refusal Json
  | .finished found => .ok found
  | state => .error (.flawed ⟨state.complaint, []⟩)

/-- The value of a text without a byte order mark. -/
def readTokens (source : List Token) : Except Refusal Json := do
  let state ← source.foldlM step (.value [])
  state.result

/-- The value that a text denotes. -/
def read (source : List Char) : Except Refusal Json :=
  match source with
  | '\uFEFF' :: _ => .error (.flawed ⟨.byteOrderMark, source⟩)
  | _ => readTokens (tokens source)

/-! ## Places -/

/-- A place in a text. -/
structure Place where
  /-- The line, from one. -/
  line : Nat
  /-- The column, from one. -/
  column : Nat
  /-- The number of characters before it. -/
  offset : Nat
deriving DecidableEq, Repr

/-- The place in a text from which the given characters remain. -/
def placeIn (source remaining : List Char) : Place :=
  let offset := source.length - remaining.length
  let before := source.take offset
  { line := 1 + before.count '\n'
    column := 1 + (before.reverse.takeWhile (· ≠ '\n')).length
    offset }

/-- A place in words. -/
def Place.text (place : Place) : String :=
  "line " ++ toString place.line ++ " column " ++ toString place.column ++ " (char "
    ++ toString place.offset ++ ")"

end AbiTypings.Json
