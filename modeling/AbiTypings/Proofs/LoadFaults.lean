import AbiTypings.Proofs.Loading
import AbiTypings.Proofs.LongIntegers

/-!
# Faults of loading

A text that is not loaded is announced as malformed, with two exceptions that the program does not
foresee: an integer with too many digits ends the reading of the text, and the check of the ABI
meets a null where a variant or a struct should be. What stands in the place of an entry and is
neither an object nor null makes the text malformed wherever it stands.
-/

namespace AbiTypings

/-- An item stands where an entry is read: in a collection of the ABI, or among the fields of a
struct. -/
inductive Members.HasEntryItem (members : Members) (item : Json) : Prop where
  | aliases (inside : members.HasItem "types" item)
  | variants (inside : members.HasItem "variants" item)
  | structs (inside : members.HasItem "structs" item)
  | fields {held : Members} (struct : members.HasItem "structs" (.object held))
    (inside : held.HasItem "fields" item)

namespace Abi

/-- A text describes an ABI whose check meets a null. -/
def MeetsNullIn (text : List Char) (need : Need) : Prop :=
  ∃ members, ∃ abi : Abi, Json.read text = .ok (.object members) ∧ abi.ReadFrom members ∧
    abi.MeetsNull need

end Abi

/-! ## Entries -/

/-- An entry is read from an object or from null. -/
theorem Json.ReadsEntry.kind {α : Type} {readFrom : Members → α → Prop} {item : Json}
    {entry : Option α} (read : ReadsEntry readFrom item entry) :
    item.kind = .object ∨ item.kind = .null := by
  cases read with
  | null => exact .inr rfl
  | object found => exact .inl rfl

/-- Where an ABI is read, only objects and nulls stand in the places of entries. -/
theorem Abi.ReadFrom.kind {abi : Abi} {members : Members} (read : abi.ReadFrom members)
    {item : Json} (inside : members.HasEntryItem item) :
    item.kind = .object ∨ item.kind = .null := by
  cases inside with
  | aliases inside =>
    obtain ⟨_, -, entryRead⟩ := read.aliases.exists_of_hasItem inside
    exact entryRead.kind
  | variants inside =>
    obtain ⟨_, -, entryRead⟩ := read.variants.exists_of_hasItem inside
    exact entryRead.kind
  | structs inside =>
    obtain ⟨_, -, entryRead⟩ := read.structs.exists_of_hasItem inside
    exact entryRead.kind
  | fields struct inside =>
    obtain ⟨_, -, structRead⟩ := read.structs.exists_of_hasItem struct
    cases structRead with
    | object found =>
      obtain ⟨_, -, fieldRead⟩ := found.fields.exists_of_hasItem inside
      exact fieldRead.kind

/-- A null among the variants or the structs is never loaded. -/
theorem Abi.ofJson_ne_ok_of_null {members : Members}
    (inside : members.HasItem "variants" .null ∨ members.HasItem "structs" .null) (abi : Abi) :
    ofJson (.object members) ≠ .ok abi := by
  intro loaded
  obtain ⟨_, same, read, listed⟩ := ofJson_eq_ok_iff.mp loaded
  obtain rfl := Json.object.inj same
  rcases inside with inside | inside
  · obtain ⟨entry, member, entryRead⟩ := read.variants.exists_of_hasItem inside
    obtain ⟨variant, held, rfl, -⟩ := listed.variants entry member
    cases entryRead
  · obtain ⟨entry, member, entryRead⟩ := read.structs.exists_of_hasItem inside
    obtain ⟨struct, held, rfl, -⟩ := listed.structs entry member
    cases entryRead

/-! ## Texts -/

namespace Abi

variable {text : List Char}

/-- The value of a text is loaded. -/
theorem parse_of_read {value : Json} (read : Json.read text = .ok value) :
    parse text = ofJson value := by
  rw [parse, jsonOfText, read]
  rfl

/-- A text that is no JSON is malformed. -/
theorem parse_of_flawed {flaw : Json.Flaw} (read : Json.read text = .error (.flawed flaw)) :
    ∃ malformation, parse text = .error (.malformed malformation) := by
  refine ⟨.notJson flaw.complaint (Json.placeIn text flaw.place), ?_⟩
  rw [parse, jsonOfText, read]
  rfl

/-- An integer with too many digits is the fault of the text that has it. -/
theorem parse_of_longInteger {digits : Nat}
    (read : Json.read text = .error (.longInteger digits)) :
    parse text = .error (.longInteger digits) := by
  rw [parse, jsonOfText, read]
  rfl

/-- A text that meets a null is not loaded, and the null is the fault. -/
theorem parse_of_meetsNullIn {need : Need} (met : MeetsNullIn text need) :
    parse text = .error (.null need) := by
  obtain ⟨members, abi, read, readFrom, nullMet⟩ := met
  rw [parse_of_read read]
  exact ofJson_eq_null_iff.mpr ⟨members, abi, rfl, readFrom, nullMet⟩

/-- A text that is not loaded is malformed, has an integer with too many digits, or meets a null. -/
theorem parse_eq_error {fault : Fault} (failed : parse text = .error fault) :
    (∃ malformation, fault = .malformed malformation) ∨
      (∃ digits, fault = .longInteger digits ∧ Json.MeetsLongInteger text digits) ∨
      ∃ need, fault = .null need ∧ MeetsNullIn text need := by
  cases read : Json.read text with
  | error refusal =>
    cases refusal with
    | flawed flaw =>
      obtain ⟨malformation, found⟩ := parse_of_flawed read
      rw [found] at failed
      exact .inl ⟨malformation, (Except.error.inj failed).symm⟩
    | longInteger digits =>
      rw [parse_of_longInteger read] at failed
      exact .inr (.inl ⟨digits, (Except.error.inj failed).symm,
        Json.read_eq_longInteger_iff.mp read⟩)
  | ok value =>
    rw [parse_of_read read] at failed
    rcases malformed_or_null_of_ofJson failed with malformed | ⟨need, rfl⟩
    · exact .inl malformed
    · obtain ⟨members, abi, rfl, readFrom, met⟩ := ofJson_eq_null_iff.mp failed
      exact .inr (.inr ⟨need, rfl, members, abi, read, readFrom, met⟩)

/-- An integer with too many digits is the fault of exactly the texts that meet one. -/
theorem parse_eq_longInteger_iff {digits : Nat} :
    parse text = .error (.longInteger digits) ↔ Json.MeetsLongInteger text digits := by
  constructor
  · intro failed
    rcases parse_eq_error failed with ⟨_, other⟩ | ⟨_, same, met⟩ | ⟨_, other, -⟩
    · contradiction
    · exact Fault.longInteger.inj same ▸ met
    · contradiction
  · intro met
    exact parse_of_longInteger (Json.read_eq_longInteger_iff.mpr met)

/-- A null is the fault of exactly the texts whose check meets one. -/
theorem parse_eq_null_iff {need : Need} :
    parse text = .error (.null need) ↔ MeetsNullIn text need := by
  constructor
  · intro failed
    rcases parse_eq_error failed with ⟨_, other⟩ | ⟨_, other, -⟩ | ⟨_, same, met⟩
    · contradiction
    · contradiction
    · exact Fault.null.inj same ▸ met
  · exact parse_of_meetsNullIn

/-- A text is loaded or announced as malformed exactly when it meets neither an integer with too
many digits nor a null. -/
theorem parse_announced_iff :
    ((∃ abi, parse text = .ok abi) ∨
        ∃ malformation, parse text = .error (.malformed malformation)) ↔
      (¬ ∃ digits, Json.MeetsLongInteger text digits) ∧ ¬ ∃ need, MeetsNullIn text need := by
  constructor
  · intro announced
    constructor
    · rintro ⟨digits, met⟩
      have failed := parse_eq_longInteger_iff.mpr met
      simp [failed] at announced
    · rintro ⟨need, met⟩
      have failed := parse_eq_null_iff.mpr met
      simp [failed] at announced
  · rintro ⟨noLongInteger, noNull⟩
    cases parsed : parse text with
    | ok abi => exact .inl ⟨abi, rfl⟩
    | error fault =>
      rcases parse_eq_error parsed with ⟨malformation, rfl⟩ | ⟨digits, -, met⟩ | ⟨need, -, met⟩
      · exact .inr ⟨malformation, rfl⟩
      · exact absurd ⟨digits, met⟩ noLongInteger
      · exact absurd ⟨need, met⟩ noNull

/-- What is neither an object nor null makes a text malformed in the place of an entry. -/
theorem parse_of_hasEntryItem {members : Members} (read : Json.read text = .ok (.object members))
    {item : Json} (inside : members.HasEntryItem item) (noObject : item.kind ≠ .object)
    (noNull : item.kind ≠ .null) :
    ∃ fault, parse text = .error (.malformed (.badEntry fault)) := by
  rw [parse_of_read read]
  apply ofJson_of_not_readFrom
  intro abi readFrom
  rcases readFrom.kind inside with object | isNull
  · exact noObject object
  · exact noNull isNull

/-- A text is loaded or announced as malformed exactly when it meets neither an integer with too
many digits nor a null in the place of a variant or struct; these two are faults of their own. What
stands in the place of an entry and is neither an object nor null makes the text malformed, and a
null among the variants or structs is not loaded either. -/
theorem parse_outcome (text : List Char) :
    (((∃ abi, parse text = .ok abi) ∨
        ∃ malformation, parse text = .error (.malformed malformation)) ↔
      (¬ ∃ digits, Json.MeetsLongInteger text digits) ∧ ¬ ∃ need, MeetsNullIn text need) ∧
    (∀ digits, parse text = .error (.longInteger digits) ↔ Json.MeetsLongInteger text digits) ∧
    (∀ need, parse text = .error (.null need) ↔ MeetsNullIn text need) ∧
    ∀ members : Members, Json.read text = .ok (.object members) →
      (∀ item, members.HasEntryItem item → item.kind ≠ .object → item.kind ≠ .null →
        ∃ fault, parse text = .error (.malformed (.badEntry fault))) ∧
      (members.HasItem "variants" .null ∨ members.HasItem "structs" .null →
        ∀ abi, parse text ≠ .ok abi) := by
  refine ⟨parse_announced_iff, fun _ => parse_eq_longInteger_iff, fun _ => parse_eq_null_iff,
    fun members read => ⟨fun item => parse_of_hasEntryItem read, fun inside abi => ?_⟩⟩
  rw [parse_of_read read]
  exact ofJson_ne_ok_of_null inside abi

/-- A struct that is a text is announced as malformed. -/
theorem parse_outcome_textStruct :
    ∃ members : Members,
      Json.read "\x7b\"structs\": [\"transfer\"]\x7d".toList = .ok (.object members) ∧
      members.HasEntryItem (.text "transfer") ∧
      ∃ fault, parse "\x7b\"structs\": [\"transfer\"]\x7d".toList =
        .error (.malformed (.badEntry fault)) := by
  have read : Json.read "\x7b\"structs\": [\"transfer\"]\x7d".toList =
      .ok (.object [("structs", .array [.text "transfer"])]) := by rfl
  have inside : Members.HasEntryItem [("structs", .array [.text "transfer"])] (.text "transfer") :=
    .structs ⟨_, _, rfl, .array _, List.mem_singleton_self _⟩
  have malformed :=
    ((parse_outcome _).2.2.2 _ read).1 (.text "transfer") inside (by decide) (by decide)
  exact ⟨_, read, inside, malformed⟩

/-- A null in the place of a variant and an integer with too many digits are not announced as
malformed, and a null in the place of an alias is loaded. -/
theorem parse_unannounced :
    parse "\x7b\"variants\": [null]\x7d".toList = .error (.null .members) ∧
      parse (List.replicate 4301 '1') = .error (.longInteger 4301) ∧
      parse "\x7b\"types\": [null]\x7d".toList = .ok { aliases := some [none] } := by
  refine ⟨by rfl, ?_, by rfl⟩
  decide +kernel

end Abi
end AbiTypings
