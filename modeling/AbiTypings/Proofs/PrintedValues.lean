import AbiTypings.Json.Reader
import AbiTypings.Proofs.Assignments
import AbiTypings.Proofs.PrintedIntegers
import AbiTypings.Proofs.PrintedText

/-!
# Printed values

Reading the text that a value is printed as returns the value with the halves in each of its texts
joined, if no integer in it has more digits than the reader takes and no double is in it. Names that
become the same when their halves are joined are given their values one after the other. The proof
follows the machine that reads: from a state that awaits a value, the printed value leads to the
state in which the value is complete, whatever text follows. Only after an integer the text matters,
because it must not go on with the numeral.
-/

namespace AbiTypings.Json

/-! ## Reading on -/

/-- The state after reading a text from a state. -/
def advance (state : State) (chars : List Char) : Except Refusal State :=
  (tokens chars).foldlM step state

/-- Blanks do not change the state. -/
theorem advance_blank {c : Char} (blank : isBlank c = true) (state : State) (rest : List Char) :
    advance state (c :: rest) = advance state rest := by
  have same : tokens (c :: rest) = tokens rest := by
    have more : tokens rest = tokensUpTo (rest.length + 1) rest :=
      (tokensUpTo_of_length_le (Nat.le_succ _)).symm
    rw [more, tokens, List.length_cons, tokensUpTo, tokensUpTo, List.dropWhile_cons_of_pos blank]
  rw [advance, same, advance]

/-- A text that starts with a token is read on after the step for the token. -/
theorem advance_eq_bind {c : Char} {later rest : List Char} {lexeme : Lexeme}
    (scanned : scan (c :: later) = (lexeme, rest)) (token : isBlank c = false) (state : State) :
    advance state (c :: later) =
      step state ⟨lexeme, c :: later⟩ >>= fun next => advance next rest := by
  have shorter := length_scan_le c later
  rw [scanned] at shorter
  have cut : tokens (c :: later) = ⟨lexeme, c :: later⟩ :: tokens rest := by
    have kept : List.dropWhile isBlank (c :: later) = c :: later :=
      List.dropWhile_cons_of_neg (by simp [token])
    rw [tokens, List.length_cons, tokensUpTo, kept]
    simp only [scanned]
    -- the bound that is left is one for the text after the token
    rw [tokensUpTo_of_length_le shorter]
  rw [advance, cut, List.foldlM_cons]
  rfl

/-- A token in place leads to the next state. -/
theorem advance_of_scan {c : Char} {later rest : List Char} {lexeme : Lexeme} {state next : State}
    (scanned : scan (c :: later) = (lexeme, rest)) (token : isBlank c = false)
    (stepped : ∀ place, step state ⟨lexeme, place⟩ = .ok next) :
    advance state (c :: later) = advance next rest := by
  rw [advance_eq_bind scanned token, stepped]
  rfl

/-- A punctuation mark in place leads to the next state. -/
theorem advance_mark {c : Char} {lexeme : Lexeme} {state next : State} {rest : List Char}
    (mark : punctuation? c = some lexeme)
    (stepped : ∀ place, step state ⟨lexeme, place⟩ = .ok next) :
    advance state (c :: rest) = advance next rest := by
  have token : isBlank c = false := by
    unfold punctuation? at mark
    split at mark <;> first | rfl | contradiction
  exact advance_of_scan (scan_of_punctuation mark rest) token stepped

/-- A new line does not change the state. -/
theorem advance_newLine (depth : Nat) (state : State) (rest : List Char) :
    advance state (newLine depth ++ rest) = advance state rest := by
  have spaces (count : Nat) :
      advance state (List.replicate count ' ' ++ rest) = advance state rest := by
    induction count with
    | zero => rfl
    | succ count ih => rw [List.replicate_succ, List.cons_append, advance_blank rfl, ih]
  rw [newLine, List.cons_append, advance_blank rfl, spaces]

/-- A printed text in place leads to the next state. -/
theorem advance_printText {value : String} {state next : State} {rest : List Char}
    (stepped : ∀ place, step state ⟨.text (Text.joined value), place⟩ = .ok next) :
    advance state (printText value ++ rest) = advance next rest :=
  advance_of_scan (scan_printText value rest) rfl stepped

/-! ## Values -/

mutual

/-- A value with the halves in each of its texts and names joined. -/
def rejoined : Json → Json
  | .text value => .text (Text.joined value)
  | .array items => .array (rejoinedItems items)
  | .object members => .object (assignAll (rejoinedMembers members))
  | value => value

/-- Items with the halves in each of their texts joined. -/
def rejoinedItems : List Json → List Json
  | [] => []
  | item :: items => rejoined item :: rejoinedItems items

/-- Members with the halves in each of their names and texts joined. -/
def rejoinedMembers : List (String × Json) → List (String × Json)
  | [] => []
  | (name, value) :: members => (Text.joined name, rejoined value) :: rejoinedMembers members

end

/-- The containers around the value that a state awaits; the first item of a list is inside the
list. -/
def State.awaited? : State → Option (List Frame)
  | .value outer => some outer
  | .firstItem outer => some (.items [] :: outer)
  | _ => none

/-- In a state that awaits a value, every token but the end of a list may start one. -/
theorem step_of_awaited {state : State} {outer : List Frame} (awaited : state.awaited? = some outer)
    {lexeme : Lexeme} (noEnd : lexeme ≠ .closeArray) (place : List Char) :
    step state ⟨lexeme, place⟩ = start state outer ⟨lexeme, place⟩ := by
  cases state with
  | value around =>
    obtain rfl := Option.some.inj awaited
    rfl
  | firstItem around =>
    obtain rfl := Option.some.inj awaited
    cases lexeme <;> first | rfl | exact absurd rfl noEnd
  | _ => contradiction

/-- From a state that awaits a value, the printed value leads to the state after it, with its halves
joined. -/
def IsReadOn (value : Json) : Prop :=
  ∀ (state : State) (outer : List Frame) (depth : Nat) (rest : List Char),
    state.awaited? = some outer → EndsNumeral rest →
      advance state (print depth value ++ rest) = advance (complete value.rejoined outer) rest

/-- Further items are read on if each of them is, and end where the numeral of one may end. -/
theorem advance_printItems {items : List Json} (each : ∀ item ∈ items, IsReadOn item)
    (outer : List Frame) (depth : Nat) {rest : List Char} (ends : EndsNumeral rest)
    (held : List Json) :
    EndsNumeral (printItems depth items ++ rest) ∧
      advance (.afterItem held outer) (printItems depth items ++ rest) =
        advance (.afterItem ((rejoinedItems items).reverse ++ held) outer) rest := by
  -- an item may be an integer, so that what follows it ends a numeral is shown along with the rest
  induction items generalizing held with
  | nil => exact ⟨ends, rfl⟩
  | cons item later ih =>
    have others := ih fun other member => each other (List.mem_cons_of_mem _ member)
    have split : printItems depth (item :: later) ++ rest =
        ',' :: (newLine depth ++ (print depth item ++ (printItems depth later ++ rest))) := by
      simp [printItems]
    have first := each item List.mem_cons_self (.value (.items held :: outer)) _ depth _ rfl
      (others held).1
    rw [split]
    refine ⟨endsNumeral_cons (by decide) _, ?_⟩
    rw [advance_mark rfl fun _ => rfl, advance_newLine, first]
    refine (others (item.rejoined :: held)).2.trans ?_
    rw [rejoinedItems, List.reverse_cons, List.append_assoc, List.singleton_append]

/-- Further members are read on if each value is, and end where the numeral of one may end. -/
theorem advance_printMembers {members : List (String × Json)}
    (each : ∀ member ∈ members, IsReadOn member.2) (outer : List Frame) (depth : Nat)
    {rest : List Char} (ends : EndsNumeral rest) (held : List (String × Json)) :
    EndsNumeral (printMembers depth members ++ rest) ∧
      advance (.afterMember held outer) (printMembers depth members ++ rest) =
        advance (.afterMember ((rejoinedMembers members).foldl
          (fun held (name, value) => assign name value held) held) outer) rest := by
  induction members generalizing held with
  | nil => exact ⟨ends, rfl⟩
  | cons member later ih =>
    obtain ⟨name, value⟩ := member
    have others := ih fun other member => each other (List.mem_cons_of_mem _ member)
    have split : printMembers depth ((name, value) :: later) ++ rest =
        ',' :: (newLine depth ++ (printText name ++ ':' :: ' ' :: (print depth value ++
          (printMembers depth later ++ rest)))) := by
      simp [printMembers]
    have first := each (name, value) List.mem_cons_self
      (.value (.members held (Text.joined name) :: outer)) _ depth _ rfl (others held).1
    rw [split]
    refine ⟨endsNumeral_cons (by decide) _, ?_⟩
    rw [advance_mark rfl fun _ => rfl, advance_newLine, advance_printText fun _ => rfl,
      advance_mark rfl fun _ => rfl, advance_blank rfl, first]
    exact (others (assign (Text.joined name) value.rejoined held)).2

/-- A value that is read: no double is in it, and its integers are not too long. -/
inductive IsReadable : Json → Prop where
  | null : IsReadable .null
  | bool (value : Bool) : IsReadable (.bool value)
  | integer {value : Int} (short : (Nat.toDigits 10 value.natAbs).length ≤ digitLimit) :
    IsReadable (.integer value)
  | text (value : String) : IsReadable (.text value)
  | array {items : List Json} (each : ∀ item ∈ items, IsReadable item) : IsReadable (.array items)
  | object {members : List (String × Json)} (each : ∀ member ∈ members, IsReadable member.2) :
    IsReadable (.object members)

/-- A word leads to the state after its value. -/
theorem advance_literal {c : Char} {later : List Char} {value : Json}
    (scanned : ∀ rest, scan (c :: (later ++ rest)) = (.literal value, rest))
    (token : isBlank c = false) {state : State} {outer : List Frame}
    (awaited : state.awaited? = some outer) (rest : List Char) :
    advance state (c :: (later ++ rest)) = advance (complete value outer) rest :=
  advance_of_scan (scanned rest) token (step_of_awaited awaited (by nofun))

/-- An integer leads to the state after it, or is refused if it has too many digits. -/
theorem advance_integer (value : Int) {state : State} {outer : List Frame}
    (awaited : state.awaited? = some outer) {rest : List Char} (ends : EndsNumeral rest) :
    advance state ((toString value).toList ++ rest) =
      if digitLimit < (Nat.toDigits 10 value.natAbs).length then
        .error (.longInteger (Nat.toDigits 10 value.natAbs).length)
      else advance (complete (.integer value) outer) rest := by
  obtain ⟨c, later, printed, first⟩ := exists_toList_toString value
  have token : isBlank c = false := by
    rcases first with rfl | digit
    · rfl
    · exact (ne_of_isDigit digit).2.2
  have scanned := scan_toString value ends
  rw [printed, List.cons_append] at scanned ⊢
  rw [advance_eq_bind scanned token, step_of_awaited awaited (by nofun)]
  by_cases long : digitLimit < (Nat.toDigits 10 value.natAbs).length
  · simp only [start, Numeral.value_ofInt, if_pos long]
    rfl
  · simp only [start, Numeral.value_ofInt, if_neg long]
    rfl

/-- A list is read on if its items are. -/
theorem isReadOn_array {items : List Json} (each : ∀ item ∈ items, IsReadOn item) :
    IsReadOn (.array items) := by
  intro state outer depth rest awaited ends
  have opened (place : List Char) : step state ⟨.openArray, place⟩ = .ok (.firstItem outer) :=
    step_of_awaited awaited (by nofun) place
  cases items with
  | nil =>
    rw [print, List.cons_append, advance_mark rfl opened]
    exact advance_mark rfl fun _ => rfl
  | cons item later =>
    have split : print depth (.array (item :: later)) ++ rest =
        '[' :: (newLine (depth + 1) ++ (print (depth + 1) item ++ (printItems (depth + 1) later ++
          (newLine depth ++ ']' :: rest)))) := by
      simp [print]
    have closes : EndsNumeral (newLine depth ++ ']' :: rest) :=
      endsNumeral_cons (by decide) _
    obtain ⟨follows, others⟩ :=
      advance_printItems (fun other member => each other (List.mem_cons_of_mem _ member)) outer
        (depth + 1) closes [item.rejoined]
    rw [split, advance_mark rfl opened, advance_newLine,
      each item List.mem_cons_self _ (.items [] :: outer) _ _ rfl follows]
    refine others.trans ?_
    rw [advance_newLine, advance_mark rfl fun _ => rfl, List.reverse_append, List.reverse_reverse]
    rfl

/-- The members of an object are read on up to what follows the last of them. -/
theorem advance_members {state : State} {outer : List Frame} (awaited : state.awaited? = some outer)
    {name : String} {value : Json} {later : List (String × Json)}
    (each : ∀ member ∈ (name, value) :: later, IsReadOn member.2) (depth : Nat) {rest : List Char}
    (ends : EndsNumeral rest) :
    advance state ('\x7b' :: (newLine depth ++ (printText name ++ ':' :: ' ' ::
        (print depth value ++ (printMembers depth later ++ rest))))) =
      advance (.afterMember (assignAll (rejoinedMembers ((name, value) :: later))) outer) rest := by
  have opened (place : List Char) : step state ⟨.openObject, place⟩ = .ok (.firstName outer) :=
    step_of_awaited awaited (by nofun) place
  obtain ⟨follows, others⟩ :=
    advance_printMembers (fun other member => each other (List.mem_cons_of_mem _ member)) outer
      depth ends (assign (Text.joined name) value.rejoined [])
  rw [advance_mark rfl opened, advance_newLine, advance_printText fun _ => rfl,
    advance_mark rfl fun _ => rfl, advance_blank rfl,
    each (name, value) List.mem_cons_self _ (.members [] (Text.joined name) :: outer) _ _ rfl
      follows]
  exact others

/-- An object is read on if its values are. -/
theorem isReadOn_object {members : List (String × Json)}
    (each : ∀ member ∈ members, IsReadOn member.2) : IsReadOn (.object members) := by
  intro state outer depth rest awaited ends
  cases members with
  | nil =>
    rw [print, List.cons_append, advance_mark rfl (step_of_awaited awaited (by nofun))]
    exact advance_mark rfl fun _ => rfl
  | cons member later =>
    have split : print depth (.object (member :: later)) ++ rest =
        '\x7b' :: (newLine (depth + 1) ++ (printText member.1 ++ ':' :: ' ' ::
          (print (depth + 1) member.2 ++ (printMembers (depth + 1) later ++
            (newLine depth ++ '\x7d' :: rest))))) := by
      simp [print]
    have closes : EndsNumeral (newLine depth ++ '\x7d' :: rest) :=
      endsNumeral_cons (by decide) _
    rw [split, advance_members awaited each _ closes, advance_newLine]
    exact advance_mark rfl fun _ => rfl

/-- A readable value is read on. -/
theorem IsReadable.isReadOn {value : Json} (readable : value.IsReadable) : IsReadOn value := by
  induction readable with
  | null => exact fun _ _ _ rest awaited _ => advance_literal (fun _ => rfl) rfl awaited rest
  | bool value =>
    cases value with
    | true => exact fun _ _ _ rest awaited _ => advance_literal (fun _ => rfl) rfl awaited rest
    | false => exact fun _ _ _ rest awaited _ => advance_literal (fun _ => rfl) rfl awaited rest
  | integer short =>
    intro state outer depth rest awaited ends
    rw [print, advance_integer _ awaited ends, if_neg (Nat.not_lt.mpr short)]
    rfl
  | text value =>
    exact fun _ _ _ _ awaited _ => advance_printText (step_of_awaited awaited (by nofun))
  | array each ih => exact isReadOn_array ih
  | object each ih => exact isReadOn_object ih

/-! ## Reading back -/

/-- A text without a byte order mark is read from the state that awaits its value. -/
theorem read_eq_bind {source : List Char} (noMark : source.head? ≠ some '\uFEFF') :
    read source = advance (.value []) source >>= State.result := by
  unfold read
  split
  · exact absurd rfl noMark
  · rfl

/-- No printed value starts with a byte order mark. -/
theorem head?_print_ne {value : Json} (readable : value.IsReadable) (depth : Nat)
    (rest : List Char) : (print depth value ++ rest).head? ≠ some '\uFEFF' := by
  cases readable with
  | null => simp [print]
  | bool value => cases value <;> simp [print]
  | @integer value short =>
    obtain ⟨c, later, printed, first⟩ := exists_toList_toString value
    rw [print, printed]
    rintro same
    obtain rfl : c = '\uFEFF' := Option.some.inj same
    exact absurd first (by decide)
  | text value => simp [print, printText]
  | @array items each => cases items <;> simp [print]
  | @object members each => cases members <;> simp [print]

/-- The text of a readable value, with a line feed at its end, is read as the value with its halves
joined. -/
theorem read_pretty {value : Json} (readable : value.IsReadable) :
    read (pretty value ++ "\n").toList = .ok value.rejoined := by
  have printed : (pretty value ++ "\n").toList = print 0 value ++ ['\n'] := by simp [pretty]
  have ends : EndsNumeral ['\n'] :=
    endsNumeral_cons (by decide) _
  rw [printed, read_eq_bind (head?_print_ne readable 0 _), readable.isReadOn _ [] 0 _ rfl ends]
  rfl

/-- Further members are printed one after the other. -/
theorem printMembers_append (depth : Nat) (left right : List (String × Json)) :
    printMembers depth (left ++ right) = printMembers depth left ++ printMembers depth right := by
  induction left with
  | nil => rfl
  | cons member later ih => simp [printMembers, ih]

/-- The text of an object is refused if, after readable members, its last one is an integer with too
many digits. -/
theorem read_pretty_of_long (first : String × Json) (others : List (String × Json))
    (each : ∀ member ∈ first :: others, member.2.IsReadable) (name : String) {value : Int}
    (long : digitLimit < (Nat.toDigits 10 value.natAbs).length) :
    read (pretty (.object (first :: (others ++ [(name, .integer value)]))) ++ "\n").toList =
      .error (.longInteger (Nat.toDigits 10 value.natAbs).length) := by
  have printed : (pretty (.object (first :: (others ++ [(name, .integer value)]))) ++ "\n").toList =
      '\x7b' :: (newLine 1 ++ (printText first.1 ++ ':' :: ' ' :: (print 1 first.2 ++
        (printMembers 1 others ++ (',' :: (newLine 1 ++ (printText name ++ ':' :: ' ' ::
          ((toString value).toList ++ (newLine 0 ++ ['\x7d', '\n']))))))))) := by
    simp [pretty, print, printMembers_append, printMembers]
  have follows : EndsNumeral (',' :: (newLine 1 ++ (printText name ++ ':' :: ' ' ::
      ((toString value).toList ++ (newLine 0 ++ ['\x7d', '\n']))))) :=
    endsNumeral_cons (by decide) _
  have closes : EndsNumeral (newLine 0 ++ ['\x7d', '\n']) :=
    endsNumeral_cons (by decide) _
  have awaited : (State.value []).awaited? = some [] := rfl
  have before := advance_members awaited (fun member inside => (each member inside).isReadOn) 1
    follows
  rw [printed, read_eq_bind (by simp), before, advance_mark rfl fun _ => rfl, advance_newLine,
    advance_printText fun _ => rfl, advance_mark rfl fun _ => rfl, advance_blank rfl,
    advance_integer value rfl closes, if_pos long]
  rfl

end AbiTypings.Json
