import AbiTypings.Proofs.Outcome
import AbiTypings.Proofs.Traversal

/-!
# Outcomes for valid ABIs

A valid ABI need not be emittable: a null may stand among the aliases, among the fields of a struct
and in the places of names, targets and types. Exactly an emittable one has lenient typings, and
these are its strict typings when the element of every token is known (`typings_eq_ok_iff`).
Otherwise the fault is a null that is needed or, in strict mode, an unresolvable reference.
-/

namespace AbiTypings

/-! ## Scopes -/

/-- The names of entries are lacking only because an entry is null. -/
theorem null_of_mapM_entryName {α : Type} {need : Need} {name : α → Option String}
    {entries : List (Option α)} {fault : Fault}
    (failed : entries.mapM (Abi.entryName need name) = .error fault) : fault = .null need := by
  induction entries with
  | nil => contradiction
  | cons entry rest ih =>
    rw [List.mapM_cons] at failed
    cases entry with
    | none => exact (Except.error.inj failed).symm
    | some entry =>
      change (rest.mapM (Abi.entryName need name) >>= fun names =>
        Except.ok (name entry :: names)) = _ at failed
      rcases bind_eq_error_iff.mp failed with restFailed | ⟨_, -, impossible⟩
      · exact ih restFailed
      · contradiction

/-- What a scope refuses is a null or, if it knows names, an unresolvable reference. -/
theorem Scope.null_or_unresolvable {scope : Scope} {demand : Demand} {fault : Fault}
    (refused : scope.refusal? demand = some fault) :
    (∃ need, fault = .null need) ∨
      scope.declared ≠ none ∧ ∃ name token, fault = .unresolvable name token := by
  cases demand with
  | absent need => exact .inl ⟨need, (Option.some.inj refused).symm⟩
  | refer element token =>
    obtain ⟨names, name, written, declared, -, -, unresolvable⟩ :=
      unresolvable_of_refusal rfl refused
    exact .inr ⟨by simp [declared], name, written, unresolvable⟩

namespace Abi

variable {abi : Abi} {style : NameStyle} {strict : Bool}

/-- The declared names of an ABI are lacking only because an entry is null. -/
theorem null_of_declaredNames {fault : Fault} (failed : abi.declaredNames = .error fault) :
    ∃ need, fault = .null need := by
  rw [declaredNames] at failed
  rcases bind_eq_error_iff.mp failed with aliases | ⟨_, -, failed⟩
  · exact ⟨_, null_of_mapM_entryName aliases⟩
  rcases bind_eq_error_iff.mp failed with variants | ⟨_, -, failed⟩
  · exact ⟨_, null_of_mapM_entryName variants⟩
  rcases bind_eq_error_iff.mp failed with structs | ⟨_, -, impossible⟩
  · exact ⟨_, null_of_mapM_entryName structs⟩
  · contradiction

/-- An ABI has a scope in the style, which knows no names if it is lenient, unless an entry is
null. -/
theorem scope_cases (abi : Abi) (style : NameStyle) (strict : Bool) :
    (∃ need, abi.scope style strict = .error (.null need)) ∨
      ∃ scope, abi.scope style strict = .ok scope ∧ scope.style = style ∧
        (strict = false → scope.declared = none) := by
  cases strict with
  | false => exact .inr ⟨⟨style, none⟩, rfl, rfl, fun _ => rfl⟩
  | true =>
    cases declared : abi.declaredNames with
    | error fault =>
      obtain ⟨need, rfl⟩ := null_of_declaredNames declared
      refine .inl ⟨need, ?_⟩
      simp only [scope, declared, ↓reduceIte]
      rfl
    | ok names =>
      refine .inr ⟨⟨style, some (names.filterMap id)⟩, ?_, rfl, ?_⟩
      · simp only [scope, declared, ↓reduceIte]
        rfl
      · intro lenient
        contradiction

/-! ## Typings -/

/-- Every scope refuses something that an ABI demands if it is not emittable. -/
theorem exists_refusal (lacking : abi.isEmittable style = false) (scope : Scope) :
    ∃ fault, (abi.demands style).findSome? scope.refusal? = some fault := by
  obtain ⟨need, member⟩ := exists_absent_mem_demands lacking
  rw [← Option.isSome_iff_exists, List.findSome?_isSome_iff]
  exact ⟨_, member, rfl⟩

/-- Declarations are emitted without declared names exactly when the ABI is emittable. -/
theorem emit_lenient_eq_ok_iff {declarations : List Declaration} :
    (abi.emit ⟨style, none⟩).outcome = .ok declarations ↔
      abi.isEmittable style = true ∧ declarations = abi.declarations style := by
  cases emittable : abi.isEmittable style with
  | false =>
    obtain ⟨fault, refused⟩ := exists_refusal emittable ⟨style, none⟩
    rw [emit_eq, Scope.outcome_yield, refused]
    simp
  | true => simp [emit_eq_of_emittable emittable, eq_comm]

/-- A valid ABI that is not emittable has no typings: the fault is a null or, in strict mode, an
unresolvable reference. -/
theorem typings_of_not_emittable (valid : abi.validate = .ok ())
    (lacking : abi.isEmittable style = false) (strict : Bool) :
    ∃ fault, abi.typings style strict = .error fault ∧
      ((∃ need, fault = .null need) ∨
        strict = true ∧ ∃ name token, fault = .unresolvable name token) := by
  rcases abi.scope_cases style strict with ⟨need, failed⟩ | ⟨scope, resolver, styled, known⟩
  · refine ⟨.null need, ?_, .inl ⟨need, rfl⟩⟩
    rw [typings, valid, failed]
    rfl
  · obtain ⟨fault, refused⟩ := exists_refusal lacking scope
    refine ⟨fault, ?_, ?_⟩
    · rw [typings_eq_of_scope valid resolver styled, refused]
      rfl
    · obtain ⟨demand, -, refusedDemand⟩ := List.exists_of_findSome?_eq_some refused
      rcases Scope.null_or_unresolvable refusedDemand with null | ⟨declared, unresolvable⟩
      · exact .inl null
      · exact .inr ⟨eq_true_of_ne_false fun lenient => declared (known lenient),
          unresolvable⟩

/-- A valid ABI has lenient typings exactly when it is emittable. -/
theorem typings_lenient_eq_ok_iff (valid : abi.validate = .ok ()) {typings : Typings} :
    abi.typings style false = .ok typings ↔
      abi.isEmittable style = true ∧ typings = abi.resolvedTypings style := by
  cases emittable : abi.isEmittable style with
  | false =>
    obtain ⟨fault, failed, -⟩ := typings_of_not_emittable valid emittable false
    simp [failed]
  | true => simp [typings_lenient_of_emittable emittable valid, eq_comm]

/-- The strict typings of a valid ABI are its lenient ones, when the element of every token is
known. -/
theorem typings_strict_eq_ok_iff_lenient (valid : abi.validate = .ok ()) {typings : Typings} :
    abi.typings style true = .ok typings ↔
      abi.typings style false = .ok typings ∧
        ∀ token ∈ abi.tokens, abi.Knows (tokenElement token) := by
  rw [typings_lenient_eq_ok_iff valid]
  cases emittable : abi.isEmittable style with
  | false =>
    obtain ⟨fault, failed, -⟩ := typings_of_not_emittable valid emittable true
    simp [failed]
  | true =>
    rw [typings_strict_eq_ok_iff_of_emittable emittable]
    simp [valid, and_comm]

/-- An ABI has typings exactly when it is valid and emittable and, in strict mode, the element of
every token is known; they are the resolved ones. -/
theorem typings_eq_ok_iff {typings : Typings} :
    abi.typings style strict = .ok typings ↔
      abi.validate = .ok () ∧ abi.isEmittable style = true ∧
        (strict = true → ∀ token ∈ abi.tokens, abi.Knows (tokenElement token)) ∧
          typings = abi.resolvedTypings style := by
  cases validated : abi.validate with
  | error fault => simp [typings_of_invalid validated]
  | ok done =>
    cases strict with
    | false => simp [typings_lenient_eq_ok_iff validated]
    | true =>
      rw [typings_strict_eq_ok_iff_lenient validated, typings_lenient_eq_ok_iff validated]
      simp only [true_and, forall_const]
      exact and_right_comm.trans and_assoc

/-- Typings are made of what is emitted in the scope of the ABI. -/
theorem exists_emit_of_typings {typings : Typings} (found : abi.typings style strict = .ok typings) :
    ∃ scope, abi.scope style strict = .ok scope ∧
      abi.emit scope = ⟨.ok typings.declarations, typings.builtins⟩ := by
  rw [Abi.typings] at found
  obtain ⟨_, -, found⟩ := bind_eq_ok_iff.mp found
  obtain ⟨scope, resolver, found⟩ := bind_eq_ok_iff.mp found
  obtain ⟨declarations, emitted, same⟩ := bind_eq_ok_iff.mp found
  obtain rfl := Except.ok.inj same
  exact ⟨scope, resolver, Emission.ext emitted rfl⟩

/-- The typings of a valid ABI fail for a null, if the ABI is not emittable, or in strict mode for
an unresolvable reference. -/
theorem typings_eq_error (valid : abi.validate = .ok ()) {fault : Fault}
    (failed : abi.typings style strict = .error fault) :
    (abi.isEmittable style = false ∧ ∃ need, fault = .null need) ∨
      strict = true ∧ ∃ name token, fault = .unresolvable name token := by
  cases emittable : abi.isEmittable style with
  | false =>
    obtain ⟨other, found, causes⟩ := typings_of_not_emittable valid emittable strict
    obtain rfl : other = fault := Except.error.inj (found.symm.trans failed)
    exact causes.imp_left fun null => ⟨rfl, null⟩
  | true =>
    cases strict with
    | false =>
      rw [typings_lenient_of_emittable emittable valid] at failed
      contradiction
    | true => exact .inr ⟨rfl, typings_strict_eq_error_of_emittable emittable valid failed⟩

end Abi
end AbiTypings
