import AbiTypings.Proofs.Assignments
import AbiTypings.Proofs.DisplayedText
import AbiTypings.Proofs.Loading
import AbiTypings.Proofs.Tokens

/-!
# Whole texts

A text that is read from JSON has no first half of a surrogate pair directly in front of a second
one, because the reader joins the two. This holds of every token, each step of the machine that
reads keeps it for all that the machine holds, and so it holds of every text and name in a value
that was read. An ABI takes its texts from such a value, or displays a part of it, which is a whole
text anyway.
-/

namespace AbiTypings

open Text (IsWhole)

namespace Json

/-- Every text and every name in a value is whole. -/
inductive HasWholeTexts : Json → Prop where
  | null : HasWholeTexts .null
  | bool (value : Bool) : HasWholeTexts (.bool value)
  | integer (value : Int) : HasWholeTexts (.integer value)
  | float (value : Binary64) : HasWholeTexts (.float value)
  | text {value : String} (whole : IsWhole value) : HasWholeTexts (.text value)
  | array {items : List Json} (each : ∀ item ∈ items, HasWholeTexts item) :
    HasWholeTexts (.array items)
  | object {members : List (String × Json)} (names : ∀ member ∈ members, IsWhole member.1)
    (each : ∀ member ∈ members, HasWholeTexts member.2) : HasWholeTexts (.object members)

/-! ## Tokens -/

/-- A token that says a text or a value has whole texts. -/
def Lexeme.HasWholeTexts : Lexeme → Prop
  | .text value => IsWhole value
  | .literal value => value.HasWholeTexts
  | _ => True

/-- A token is whole, because the halves in a text are joined when it is read. -/
theorem hasWholeTexts_scan (c : Char) (rest : List Char) :
    (scan (c :: rest)).1.HasWholeTexts := by
  cases mark : punctuation? c with
  | some lexeme =>
    rw [scan_of_punctuation mark]
    unfold punctuation? at mark
    split at mark <;> cases mark <;> trivial
  | none =>
    by_cases quote : c = '"'
    · subst quote
      rw [scan_quote, scanQuoted]
      split
      · exact Text.isWhole_ofPoints_joinHalves _
      · trivial
    · rw [scan_of_word mark quote, scanWord]
      split
      · rename_i value after scanned
        obtain ⟨⟨word, literal⟩, listed, found⟩ := List.exists_of_findSome?_eq_some scanned
        obtain ⟨_, -, same⟩ := Option.map_eq_some_iff.mp found
        obtain ⟨rfl, rfl⟩ := Prod.mk.inj same
        simp only [literals, List.mem_cons, Prod.mk.injEq, List.not_mem_nil, or_false] at listed
        rcases listed with ⟨-, rfl⟩ | ⟨-, rfl⟩ | ⟨-, rfl⟩ | ⟨-, rfl⟩ | ⟨-, rfl⟩ | ⟨-, rfl⟩
        · exact HasWholeTexts.null
        · exact HasWholeTexts.bool true
        · exact HasWholeTexts.bool false
        all_goals exact HasWholeTexts.float _
      · split <;> trivial

/-- All tokens of a text are whole. -/
theorem hasWholeTexts_tokens (source : List Char) :
    ∀ token ∈ tokens source, token.lexeme.HasWholeTexts := by
  have upTo (count : Nat) (chars : List Char) :
      ∀ token ∈ tokensUpTo count chars, token.lexeme.HasWholeTexts := by
    induction count generalizing chars with
    | zero => exact fun token member => absurd member List.not_mem_nil
    | succ count ih =>
      rw [tokensUpTo]
      split
      · exact fun token member => absurd member List.not_mem_nil
      · rename_i c rest _
        intro token member
        rcases List.mem_cons.mp member with rfl | later
        · exact hasWholeTexts_scan c rest
        · exact ih _ token later
  exact upTo source.length source

/-! ## The machine that reads -/

/-- What an open container holds, as a value. -/
def Frame.held : Frame → Json
  | .items held => .array held
  | .members held name => .object ((name, .null) :: held)

/-- What a state holds, as values. -/
def State.held : State → List Json
  | .value outer | .firstItem outer | .firstName outer => outer.map Frame.held
  | .afterItem held outer => .array held :: outer.map Frame.held
  | .nextName held outer | .afterMember held outer => .object held :: outer.map Frame.held
  | .afterName held name outer => .object ((name, .null) :: held) :: outer.map Frame.held
  | .finished found => [found]

/-- All values of a list have whole texts. -/
def AllWhole (values : List Json) : Prop := ∀ value ∈ values, value.HasWholeTexts

/-- Whole values are one whole value and whole others. -/
theorem allWhole_cons {value : Json} {values : List Json} :
    AllWhole (value :: values) ↔ value.HasWholeTexts ∧ AllWhole values :=
  List.forall_mem_cons

/-- A whole list with a whole item more is whole. -/
theorem HasWholeTexts.cons_item {value : Json} (whole : value.HasWholeTexts) {held : List Json}
    (others : (Json.array held).HasWholeTexts) : (Json.array (value :: held)).HasWholeTexts := by
  cases others with
  | array each => exact .array (List.forall_mem_cons.mpr ⟨whole, each⟩)

/-- A whole list is whole in the other order. -/
theorem HasWholeTexts.reverse_items {held : List Json} (whole : (Json.array held).HasWholeTexts) :
    (Json.array held.reverse).HasWholeTexts := by
  cases whole with
  | array each => exact .array fun item member => each item (List.mem_reverse.mp member)

/-- A name that is whole can be held with the members that are whole. -/
theorem HasWholeTexts.cons_name {name : String} (whole : IsWhole name) {held : Members}
    (others : (Json.object held).HasWholeTexts) :
    (Json.object ((name, .null) :: held)).HasWholeTexts := by
  cases others with
  | object names each =>
    exact .object (List.forall_mem_cons.mpr ⟨whole, names⟩)
      (List.forall_mem_cons.mpr ⟨.null, each⟩)

/-- A whole value can be given to a name that is held with whole members. -/
theorem HasWholeTexts.assign {value : Json} (whole : value.HasWholeTexts) {name : String}
    {held : Members} (others : (Json.object ((name, .null) :: held)).HasWholeTexts) :
    (Json.object (Json.assign name value held)).HasWholeTexts := by
  cases others with
  | object names each =>
    rw [List.forall_mem_cons] at names each
    refine .object (fun member inside => ?_) fun member inside => ?_
    · rcases mem_assign inside with rfl | before
      · exact names.1
      · exact names.2 member before
    · rcases mem_assign inside with rfl | before
      · exact whole
      · exact each.2 member before

/-- An object that has no members is whole. -/
theorem hasWholeTexts_noMembers : (Json.object []).HasWholeTexts :=
  .object (fun _ member => absurd member List.not_mem_nil)
    fun _ member => absurd member List.not_mem_nil

/-- A list that has no items is whole. -/
theorem hasWholeTexts_noItems : (Json.array []).HasWholeTexts :=
  .array fun _ member => absurd member List.not_mem_nil

/-- The value of a numeral has no texts. -/
theorem hasWholeTexts_value {numeral : Numeral} {value : Json}
    (valued : numeral.value = .ok value) : value.HasWholeTexts := by
  unfold Numeral.value at valued
  split at valued
  · split at valued
    · contradiction
    · obtain rfl := Except.ok.inj valued
      exact .integer _
  · obtain rfl := Except.ok.inj valued
    exact .float _

section Steps

variable {outer : List Frame} {state next : State} {token : Token}

/-- After a whole value inside whole containers all is whole. -/
theorem allWhole_complete {value : Json} (whole : value.HasWholeTexts)
    (held : AllWhole (outer.map Frame.held)) : AllWhole (complete value outer).held := by
  cases outer with
  | nil => exact allWhole_cons.mpr ⟨whole, held⟩
  | cons frame others =>
    obtain ⟨inner, later⟩ := allWhole_cons.mp held
    cases frame with
    | items items => exact allWhole_cons.mpr ⟨whole.cons_item inner, later⟩
    | members members name => exact allWhole_cons.mpr ⟨whole.assign inner, later⟩

/-- A token with which a value starts keeps all whole. -/
theorem allWhole_start (state : State) (whole : token.lexeme.HasWholeTexts)
    (held : AllWhole (outer.map Frame.held)) (stepped : start state outer token = .ok next) :
    AllWhole next.held := by
  obtain ⟨lexeme, place⟩ := token
  cases lexeme with
  | openObject | openArray =>
    obtain rfl := Except.ok.inj stepped
    exact held
  | literal value =>
    obtain rfl := Except.ok.inj stepped
    exact allWhole_complete whole held
  | text value =>
    obtain rfl := Except.ok.inj stepped
    exact allWhole_complete (.text whole) held
  | numeral numeral =>
    rw [start] at stepped
    dsimp only at stepped
    split at stepped
    · rename_i value valued
      obtain rfl := Except.ok.inj stepped
      exact allWhole_complete (hasWholeTexts_value valued) held
    · contradiction
  | _ => contradiction

/-- The name of a member keeps all whole. -/
theorem allWhole_named (state : State) (whole : token.lexeme.HasWholeTexts) {held : Members}
    (members : (Json.object held).HasWholeTexts) (others : AllWhole (outer.map Frame.held))
    (stepped : named state held outer token = .ok next) : AllWhole next.held := by
  obtain ⟨lexeme, place⟩ := token
  cases lexeme with
  | text name =>
    obtain rfl := Except.ok.inj stepped
    exact allWhole_cons.mpr ⟨members.cons_name whole, others⟩
  | _ => contradiction

/-- A whole token keeps all whole. -/
theorem allWhole_step (whole : token.lexeme.HasWholeTexts) (held : AllWhole state.held)
    (stepped : step state token = .ok next) : AllWhole next.held := by
  obtain ⟨lexeme, place⟩ := token
  cases state with
  | value outer => exact allWhole_start (.value outer) whole held stepped
  | firstItem outer =>
    have inside : AllWhole ((Frame.items [] :: outer).map Frame.held) :=
      allWhole_cons.mpr ⟨hasWholeTexts_noItems, held⟩
    cases lexeme with
    | closeArray =>
      obtain rfl := Except.ok.inj stepped
      exact allWhole_complete hasWholeTexts_noItems held
    | _ => exact allWhole_start (.firstItem outer) whole inside stepped
  | afterItem items outer =>
    obtain ⟨inner, others⟩ := allWhole_cons.mp held
    cases lexeme with
    | comma =>
      obtain rfl := Except.ok.inj stepped
      exact held
    | closeArray =>
      obtain rfl := Except.ok.inj stepped
      exact allWhole_complete inner.reverse_items others
    | _ => contradiction
  | firstName outer => cases lexeme with
    | closeObject =>
      obtain rfl := Except.ok.inj stepped
      exact allWhole_complete hasWholeTexts_noMembers held
    | _ => exact allWhole_named (.firstName outer) whole hasWholeTexts_noMembers held stepped
  | nextName members outer =>
    obtain ⟨inner, others⟩ := allWhole_cons.mp held
    exact allWhole_named (.nextName members outer) whole inner others stepped
  | afterName members name outer => cases lexeme with
    | colon =>
      obtain rfl := Except.ok.inj stepped
      exact held
    | _ => contradiction
  | afterMember members outer =>
    obtain ⟨inner, others⟩ := allWhole_cons.mp held
    cases lexeme with
    | comma =>
      obtain rfl := Except.ok.inj stepped
      exact held
    | closeObject =>
      obtain rfl := Except.ok.inj stepped
      exact allWhole_complete inner others
    | _ => contradiction
  | finished found => contradiction

end Steps

/-- Whole tokens keep all whole. -/
theorem allWhole_foldlM {source : List Token} (whole : ∀ token ∈ source, token.lexeme.HasWholeTexts)
    {state last : State} (held : AllWhole state.held) (ran : source.foldlM step state = .ok last) :
    AllWhole last.held := by
  induction source generalizing state with
  | nil =>
    obtain rfl := Except.ok.inj ran
    exact held
  | cons token later ih =>
    rw [List.forall_mem_cons] at whole
    rw [List.foldlM_cons] at ran
    obtain ⟨next, stepped, continued⟩ := bind_eq_ok_iff.mp ran
    exact ih whole.2 (allWhole_step whole.1 held stepped) continued

/-- Every text and every name in a value that was read is whole. -/
theorem hasWholeTexts_of_read {source : List Char} {value : Json}
    (found : read source = .ok value) : value.HasWholeTexts := by
  unfold read at found
  split at found
  · contradiction
  · obtain ⟨last, ran, result⟩ := bind_eq_ok_iff.mp found
    have held := allWhole_foldlM (hasWholeTexts_tokens source)
      (fun _ member => absurd member List.not_mem_nil) ran
    cases last with
    | finished complete =>
      obtain rfl := Except.ok.inj result
      exact held complete (List.mem_singleton_self complete)
    | _ => contradiction

/-! ## What is taken from values -/

/-- A value under a key of a whole object is whole. -/
theorem HasWholeTexts.lookup {members : Members} (whole : (Json.object members).HasWholeTexts)
    {key : String} {value : Json} (stored : members.lookup key = some value) :
    value.HasWholeTexts := by
  cases whole with
  | object names each =>
    obtain ⟨before, after, rfl, -⟩ := List.lookup_eq_some_iff.mp stored
    exact each (key, value) (List.mem_append_right before List.mem_cons_self)

/-- What a whole value contains is whole. -/
theorem HasWholeTexts.contained {value item : Json} (whole : value.HasWholeTexts)
    {items : List Json} (contains : value.Contains items) (inside : item ∈ items) :
    item.HasWholeTexts := by
  cases contains with
  | array items => cases whole with
    | array each => exact each item inside
  | text value =>
    obtain ⟨point, -, rfl⟩ := List.mem_map.mp inside
    exact .text (Text.isWhole_ofPoints_joinHalves [point])
  | object members => cases whole with
    | object names each =>
      obtain ⟨member, listed, rfl⟩ := List.mem_map.mp inside
      exact .text (names member listed)

/-- The text that a field takes from a whole value is whole. -/
theorem HasWholeTexts.fieldText {value : Json} (whole : value.HasWholeTexts) {text : String}
    (taken : value.fieldText = some text) : IsWhole text := by
  cases whole with
  | null => contradiction
  | text whole =>
    obtain rfl := Option.some.inj taken
    exact whole
  | bool | integer | float | array | object =>
    obtain rfl := Option.some.inj taken
    exact isWhole_display (by nofun)

end Json
end AbiTypings
