import AbiTypings.Proofs.Reading

/-!
# What is loaded

An ABI that was read is loaded when every variant has its members and every struct its fields. The
check walks over the variants and then over the structs, and its first failure is the fault: an
entry without its list is malformed, while a null entry is asked for a list that it cannot have.
-/

namespace AbiTypings

/-- An entry is not null and has its list. -/
def HasList {α β : Type} (list : α → Option (List β)) (entry : Option α) : Prop :=
  ∃ found items, entry = some found ∧ list found = some items

namespace Abi

/-- Every variant has its members and every struct its fields. -/
structure IsListed (abi : Abi) : Prop where
  variants : ∀ entry ∈ abi.variantList, HasList Variant.members entry
  structs : ∀ entry ∈ abi.structList, HasList Struct.fields entry

/-- The check of an ABI meets a null before any entry without its list: among the variants, or
among the structs when all variants have their members. -/
inductive MeetsNull (abi : Abi) : Need → Prop where
  | variant {before after : List (Option Variant)}
    (split : abi.variantList = before ++ none :: after)
    (listed : ∀ entry ∈ before, HasList Variant.members entry) : MeetsNull abi .members
  | struct {before after : List (Option Struct)}
    (variants : ∀ entry ∈ abi.variantList, HasList Variant.members entry)
    (split : abi.structList = before ++ none :: after)
    (listed : ∀ entry ∈ before, HasList Struct.fields entry) : MeetsNull abi .fields

end Abi

/-! ## Checks of entries -/

section Check

variable {α β : Type} {list : α → Option (List β)} {need : Need} {lacks : α → Malformation}
  {check : Option α → Except Fault Unit} (onNull : check none = .error (.null need))
  (onEntry : ∀ entry, check (some entry) =
    if (list entry).isNone then .error (.malformed (lacks entry)) else .ok ())

include onNull onEntry

/-- The check passes exactly when the entry has its list. -/
theorem check_eq_ok_iff {entry : Option α} : check entry = .ok () ↔ HasList list entry := by
  cases entry with
  | none => simp [onNull, HasList]
  | some found => cases held : list found <;> simp [onEntry, HasList, held]

/-- The check asks a null entry for its list, and only a null one. -/
theorem check_eq_null_iff {entry : Option α} {asked : Need} :
    check entry = .error (.null asked) ↔ entry = none ∧ need = asked := by
  cases entry with
  | none => simp [onNull]
  | some found => cases held : list found <;> simp [onEntry, held]

/-- A check that does not pass finds the entry malformed or null. -/
theorem malformed_or_null_of_check {entry : Option α} {fault : Fault}
    (failed : check entry = .error fault) :
    (∃ malformation, fault = .malformed malformation) ∨ ∃ asked, fault = .null asked := by
  cases entry with
  | none =>
    rw [onNull] at failed
    exact .inr ⟨need, (Except.error.inj failed).symm⟩
  | some found =>
    rw [onEntry] at failed
    split at failed
    · exact .inl ⟨lacks found, (Except.error.inj failed).symm⟩
    · contradiction

end Check

/-- A variant passes exactly when it has its members. -/
theorem Variant.validate_eq_ok_iff (entry : Option Variant) :
    Variant.validate entry = .ok () ↔ HasList Variant.members entry :=
  check_eq_ok_iff rfl fun _ => rfl

/-- A struct passes exactly when it has its fields. -/
theorem Struct.validate_eq_ok_iff (entry : Option Struct) :
    Struct.validate entry = .ok () ↔ HasList Struct.fields entry :=
  check_eq_ok_iff rfl fun _ => rfl

/-! ## Checks of ABIs -/

namespace Abi

variable {abi : Abi}

/-- An ABI passes exactly when all its variants and structs have their lists. -/
theorem validate_eq_ok_iff : abi.validate = .ok () ↔ abi.IsListed := by
  rw [validate, bind_eq_ok_iff]
  constructor
  · rintro ⟨_, variants, structs⟩
    refine ⟨?_, ?_⟩
    · simpa only [Variant.validate_eq_ok_iff] using forM_eq_ok_iff.mp variants
    · simpa only [Struct.validate_eq_ok_iff] using forM_eq_ok_iff.mp structs
  · rintro ⟨variants, structs⟩
    refine ⟨(), forM_eq_ok_iff.mpr ?_, forM_eq_ok_iff.mpr ?_⟩
    · simpa only [Variant.validate_eq_ok_iff] using variants
    · simpa only [Struct.validate_eq_ok_iff] using structs

/-- The fault of an ABI is that of its first variant without members, or else of its first struct
without fields. -/
theorem validate_eq_error_iff {fault : Fault} :
    abi.validate = .error fault ↔
      (∃ before entry after, abi.variantList = before ++ entry :: after ∧
        (∀ other ∈ before, HasList Variant.members other) ∧
        Variant.validate entry = .error fault) ∨
      ((∀ entry ∈ abi.variantList, HasList Variant.members entry) ∧
        ∃ before entry after, abi.structList = before ++ entry :: after ∧
          (∀ other ∈ before, HasList Struct.fields other) ∧
          Struct.validate entry = .error fault) := by
  have passed : (∃ value, abi.variantList.forM Variant.validate = .ok value ∧
        abi.structList.forM Struct.validate = .error fault) ↔
      abi.variantList.forM Variant.validate = .ok () ∧
        abi.structList.forM Struct.validate = .error fault :=
    ⟨fun ⟨_, both⟩ => both, fun both => ⟨(), both⟩⟩
  rw [validate, bind_eq_error_iff, passed, forM_eq_error_iff, forM_eq_ok_iff, forM_eq_error_iff]
  simp only [Variant.validate_eq_ok_iff, Struct.validate_eq_ok_iff]

/-- The check asks a null for its list exactly when it meets one. -/
theorem validate_eq_null_iff {need : Need} :
    abi.validate = .error (.null need) ↔ abi.MeetsNull need := by
  have variantNull (entry : Option Variant) :
      Variant.validate entry = .error (.null need) ↔ entry = none ∧ .members = need :=
    check_eq_null_iff rfl fun _ => rfl
  have structNull (entry : Option Struct) :
      Struct.validate entry = .error (.null need) ↔ entry = none ∧ .fields = need :=
    check_eq_null_iff rfl fun _ => rfl
  simp only [validate_eq_error_iff, variantNull, structNull]
  constructor
  · rintro (⟨_, _, _, split, listed, rfl, rfl⟩ | ⟨variants, _, _, _, split, listed, rfl, rfl⟩)
    · exact .variant split listed
    · exact .struct variants split listed
  · rintro (⟨split, listed⟩ | ⟨variants, split, listed⟩)
    · exact .inl ⟨_, _, _, split, listed, rfl, rfl⟩
    · exact .inr ⟨variants, _, _, _, split, listed, rfl, rfl⟩

/-- An ABI that does not pass is malformed or has a null in the place of a variant or struct. -/
theorem malformed_or_null_of_validate {fault : Fault} (failed : abi.validate = .error fault) :
    (∃ malformation, fault = .malformed malformation) ∨ ∃ need, fault = .null need := by
  rcases validate_eq_error_iff.mp failed with
    ⟨_, _, _, -, -, entryFailed⟩ | ⟨-, _, _, _, -, -, entryFailed⟩
  · exact malformed_or_null_of_check rfl (fun _ => rfl) entryFailed
  · exact malformed_or_null_of_check rfl (fun _ => rfl) entryFailed

/-- A null that is met stands among the variants or among the structs. -/
theorem MeetsNull.mem {need : Need} (met : abi.MeetsNull need) :
    none ∈ abi.variantList ∨ none ∈ abi.structList := by
  cases met with
  | variant split listed =>
    rw [split]
    exact .inl (List.mem_append_right _ List.mem_cons_self)
  | struct variants split listed =>
    rw [split]
    exact .inr (List.mem_append_right _ List.mem_cons_self)

/-! ## Loading -/

/-- An ABI that was read from the members of an object is loaded when it passes. -/
theorem ofJson_of_readFrom {members : Members} (read : abi.ReadFrom members) :
    ofJson (.object members) = abi.validate.map fun _ => abi := by
  rw [ofJson, (ofMembers_eq_ok_iff members abi).mpr read]
  change (abi.validate >>= fun _ => Except.ok abi) = _
  cases abi.validate <;> rfl

/-- Members from which no ABI is read have an entry that cannot be read. -/
theorem ofJson_of_not_readFrom {members : Members} (unread : ∀ abi : Abi, ¬ abi.ReadFrom members) :
    ∃ fault, ofJson (.object members) = .error (.malformed (.badEntry fault)) := by
  cases found : ofMembers members with
  | error fault =>
    refine ⟨fault, ?_⟩
    rw [ofJson, found]
    rfl
  | ok abi => exact absurd ((ofMembers_eq_ok_iff members abi).mp found) (unread abi)

/-- Loading finds the value malformed, or else it reads an ABI and checks it. -/
theorem ofJson_cases (value : Json) :
    (∃ malformation, ofJson value = .error (.malformed malformation)) ∨
      ∃ members, ∃ abi : Abi, value = .object members ∧ abi.ReadFrom members ∧
        ofJson value = abi.validate.map fun _ => abi := by
  cases value with
  | object members =>
    by_cases read : ∃ abi : Abi, abi.ReadFrom members
    · obtain ⟨abi, read⟩ := read
      exact .inr ⟨members, abi, rfl, read, ofJson_of_readFrom read⟩
    · obtain ⟨fault, failed⟩ := ofJson_of_not_readFrom (not_exists.mp read)
      exact .inl ⟨_, failed⟩
  | _ => exact .inl ⟨_, rfl⟩

/-- An ABI is loaded exactly when it is read from the members of an object and passes. -/
theorem ofJson_eq_ok_iff {value : Json} :
    ofJson value = .ok abi ↔
      ∃ members, value = .object members ∧ abi.ReadFrom members ∧ abi.IsListed := by
  constructor
  · intro loaded
    rcases ofJson_cases value with ⟨malformation, failed⟩ | ⟨members, other, rfl, read, checked⟩
    · rw [failed] at loaded
      contradiction
    · rw [checked] at loaded
      cases valid : other.validate with
      | error fault => simp [valid, Except.map] at loaded
      | ok done =>
        obtain rfl : other = abi := by simpa [valid, Except.map] using loaded
        exact ⟨members, rfl, read, validate_eq_ok_iff.mp valid⟩
  · rintro ⟨members, rfl, read, listed⟩
    rw [ofJson_of_readFrom read, validate_eq_ok_iff.mpr listed]
    rfl

/-- Loading asks a null for its list exactly when the ABI that is read meets one. -/
theorem ofJson_eq_null_iff {value : Json} {need : Need} :
    ofJson value = .error (.null need) ↔
      ∃ members, ∃ abi : Abi, value = .object members ∧ abi.ReadFrom members ∧
        abi.MeetsNull need := by
  constructor
  · intro failed
    rcases ofJson_cases value with ⟨malformation, refused⟩ | ⟨members, abi, rfl, read, checked⟩
    · simp [refused] at failed
    · rw [checked] at failed
      cases valid : abi.validate with
      | error fault =>
        obtain rfl : fault = .null need := by simpa [valid, Except.map] using failed
        exact ⟨members, abi, rfl, read, validate_eq_null_iff.mp valid⟩
      | ok done => simp [valid, Except.map] at failed
  · rintro ⟨members, abi, rfl, read, met⟩
    rw [ofJson_of_readFrom read, validate_eq_null_iff.mpr met]
    rfl

/-- A value that is not loaded is malformed, or a null in it is asked for its list. -/
theorem malformed_or_null_of_ofJson {value : Json} {fault : Fault}
    (failed : ofJson value = .error fault) :
    (∃ malformation, fault = .malformed malformation) ∨ ∃ need, fault = .null need := by
  rcases ofJson_cases value with ⟨malformation, refused⟩ | ⟨members, abi, rfl, read, checked⟩
  · rw [refused] at failed
    exact .inl ⟨malformation, (Except.error.inj failed).symm⟩
  · rw [checked] at failed
    cases valid : abi.validate with
    | error found =>
      obtain rfl : found = fault := by simpa [valid, Except.map] using failed
      exact malformed_or_null_of_validate valid
    | ok done => simp [valid, Except.map] at failed

end Abi
end AbiTypings
