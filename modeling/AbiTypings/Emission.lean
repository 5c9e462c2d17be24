import AbiTypings.Builtin.Set
import AbiTypings.Fault

/-!
# Emissions

Writing declarations yields a result or a fault, and records the built-ins it meets on the way. The
record is kept when a fault ends the work. Emissions form a lawful monad: a sequence fails with its
first fault and records what its steps up to there record.
-/

namespace AbiTypings

/-- A result or a fault, with the built-ins recorded before it. -/
structure Emission (α : Type) where
  /-- What was written, or why nothing was. -/
  outcome : Except Fault α
  /-- The built-ins recorded on the way. -/
  used : BuiltinSet

namespace Emission

variable {α β : Type}

/-- A result that records nothing. -/
def ok (value : α) : Emission α := ⟨.ok value, ∅⟩

/-- A fault that records nothing. -/
def fail (fault : Fault) : Emission α := ⟨.error fault, ∅⟩

/-- A result that records a built-in. -/
def record (builtin : Builtin) (value : α) : Emission α := ⟨.ok value, .singleton builtin⟩

/-- Records a built-in, if there is one. -/
def note : Option Builtin → Emission Unit
  | some builtin => record builtin ()
  | none => ok ()

/-- An outcome that records nothing. -/
def ofExcept (outcome : Except Fault α) : Emission α := ⟨outcome, ∅⟩

/-- The second emission continues the result of the first. -/
def andThen (first : Emission α) (next : α → Emission β) : Emission β :=
  match first.outcome with
  | .ok value => ⟨(next value).outcome, first.used ∪ (next value).used⟩
  | .error fault => ⟨.error fault, first.used⟩

instance : Monad Emission where
  pure := ok
  bind := andThen

/-- Emissions with the same outcome and record are equal. -/
theorem ext {left right : Emission α} (outcome : left.outcome = right.outcome)
    (used : left.used = right.used) : left = right := by
  cases left
  cases right
  simp_all

/-- After a result the next emission decides the outcome and adds its record. -/
theorem bind_of_ok {first : Emission α} {value : α} (found : first.outcome = .ok value)
    (next : α → Emission β) :
    first >>= next = ⟨(next value).outcome, first.used ∪ (next value).used⟩ := by
  change andThen first next = _
  simp [andThen, found]

/-- After a fault nothing is emitted. -/
theorem bind_of_error {first : Emission α} {fault : Fault} (found : first.outcome = .error fault)
    (next : α → Emission β) : first >>= next = ⟨.error fault, first.used⟩ := by
  change andThen first next = _
  simp [andThen, found]

/-- Where there is no built-in to record, only the next emission counts. -/
theorem note_none_bind (next : Unit → Emission β) : note none >>= next = next () :=
  ext rfl (BuiltinSet.empty_union _)

/-- A built-in is recorded before whatever the next emission records. -/
theorem note_some_bind (builtin : Builtin) (next : Unit → Emission β) :
    note (some builtin) >>= next =
      ⟨(next ()).outcome, .singleton builtin ∪ (next ()).used⟩ := rfl

/-- Applying the identity to a result changes nothing. -/
theorem id_map (emission : Emission α) : id <$> emission = emission := by
  obtain ⟨outcome, used⟩ := emission
  cases outcome
  · rfl
  · exact ext rfl (BuiltinSet.union_empty used)

/-- A plain result hands its value on. -/
theorem pure_bind (value : α) (next : α → Emission β) : pure value >>= next = next value :=
  ext rfl (BuiltinSet.empty_union _)

/-- Emissions are continued in either grouping. -/
theorem bind_assoc {γ : Type} (emission : Emission α) (second : α → Emission β)
    (third : β → Emission γ) :
    emission >>= second >>= third = emission >>= fun value => second value >>= third := by
  cases found : emission.outcome with
  | error fault => rw [bind_of_error found, bind_of_error rfl, bind_of_error found]
  | ok value =>
    rw [bind_of_ok found, bind_of_ok found]
    cases later : (second value).outcome with
    | error fault => rw [bind_of_error rfl, bind_of_error later]
    | ok last =>
      rw [bind_of_ok rfl, bind_of_ok later]
      exact ext rfl (BuiltinSet.union_assoc _ _ _)

instance : LawfulMonad Emission := .mk' Emission id_map pure_bind bind_assoc

end Emission
end AbiTypings
