import AbiTypings.Reference
import Mathlib.Data.List.ReduceOption
import Mathlib.Data.List.TakeWhile

/-!
# Demands of an emission

What an emission writes and what it asks for are independent of each other. A demand is a null
where something is needed, which nothing meets, or a reference to an element, which a scope may
accept. `Scope.yield` meets demands in order and then yields a value that was fixed before: its
outcome is the fault of the first demand that is refused (`outcome_yield`), and it records the
built-ins of the demands before that one (`used_yield`). Emissions of this form follow each other
by joining their demands, so a traversal is described by the demands of its entries.
-/

namespace AbiTypings

/-- What an emission asks for before it goes on. -/
inductive Demand where
  /-- A null stands where something is needed. -/
  | absent (need : Need)
  /-- A token refers to an element. -/
  | refer (element token : String)
deriving DecidableEq, Repr

/-- The built-in called like an element, if there is one. -/
def BuiltinSet.ofElement (element : String) : BuiltinSet :=
  (Builtin.ofName? element).elim ∅ singleton

namespace Demand

/-- The element that is referred to. -/
def element? : Demand → Option String
  | .absent _ => none
  | .refer element _ => some element

/-- The built-ins recorded once the demand is met. -/
def builtins (demand : Demand) : BuiltinSet := demand.element?.elim ∅ .ofElement

/-- The built-ins recorded once all demands are met. -/
def allBuiltins : List Demand → BuiltinSet
  | [] => ∅
  | demand :: rest => demand.builtins ∪ allBuiltins rest

end Demand

namespace Scope

variable {α β : Type}

/-- The fault of a demand that is not met. -/
def refusal? (scope : Scope) : Demand → Option Fault
  | .absent need => some (.null need)
  | .refer element token =>
    if scope.accepts element then none else some (.unresolvable element token)

/-- Meets a demand or fails. -/
def meet (scope : Scope) (demand : Demand) : Emission Unit :=
  match scope.refusal? demand with
  | some fault => .fail fault
  | none => ⟨.ok (), demand.builtins⟩

/-- Meets demands in order and yields a value. -/
def yield (scope : Scope) : List Demand → α → Emission α
  | [], value => .ok value
  | demand :: rest, value => do
    scope.meet demand
    scope.yield rest value

end Scope

/-- The demands of an entry, a null one being needed itself. -/
def entryDemands {α : Type} (need : Need) (demands : α → List Demand) : Option α → List Demand
  | none => [.absent need]
  | some entry => demands entry

/-- An element records the built-in of its name and no other. -/
@[simp] theorem BuiltinSet.contains_ofElement (element : String) (builtin : Builtin) :
    (ofElement element).contains builtin = decide (builtin.spelling = element) := by
  unfold ofElement
  cases found : Builtin.ofName? element with
  | none =>
    have other : builtin.spelling ≠ element := by
      intro named
      rw [Builtin.ofName?_eq_some_iff.mpr named] at found
      contradiction
    simp [other]
  | some named =>
    obtain rfl := Builtin.ofName?_eq_some_iff.mp found
    have spelled : named = builtin ↔ builtin.spelling = named.spelling :=
      ⟨fun same => same ▸ rfl, fun same => Builtin.spelling_injective same.symm⟩
    simp [spelled]

/-- The built-ins of demands are the ones that are referred to. -/
theorem Demand.contains_allBuiltins {demands : List Demand} {builtin : Builtin} :
    (allBuiltins demands).contains builtin = true ↔
      ∃ demand ∈ demands, demand.element? = some builtin.spelling := by
  induction demands with
  | nil => simp [allBuiltins]
  | cons demand rest ih =>
    have head : demand.builtins.contains builtin = true ↔
        demand.element? = some builtin.spelling := by
      cases demand <;> simp [builtins, element?, eq_comm]
    simp [allBuiltins, head, ih]

namespace Scope

variable {α β : Type} {scope : Scope}

/-- A reference is refused exactly when its element is not accepted. -/
theorem refusal?_eq_none_iff {demand : Demand} {element : String}
    (refers : demand.element? = some element) :
    scope.refusal? demand = none ↔ scope.accepts element = true := by
  cases demand with
  | absent need => contradiction
  | refer other token =>
    obtain rfl := Option.some.inj refers
    simp [refusal?]

/-- Without demands the value is there at once. -/
theorem yield_nil (value : α) : scope.yield [] value = pure value := rfl

/-- What is continued by an emission under demands stands under the demands of both. -/
theorem yield_bind {first later : List Demand} {value : α} {next : α → Emission β} {last : β}
    (continued : next value = scope.yield later last) :
    scope.yield first value >>= next = scope.yield (first ++ later) last := by
  induction first with
  | nil => rw [yield_nil, Emission.pure_bind, continued, List.nil_append]
  | cons demand rest ih =>
    simp only [yield, List.cons_append, Emission.bind_assoc, ih]

/-- A change of the value leaves the demands. -/
theorem yield_map {demands : List Demand} {value : α} (change : α → β) :
    (scope.yield demands value >>= fun found => pure (change found)) =
      scope.yield demands (change value) := by
  have joined : (scope.yield demands value >>= fun found => pure (change found)) =
      scope.yield (demands ++ []) (change value) := yield_bind rfl
  rw [joined, List.append_nil]

/-- Entries are emitted under the demands of all of them, each yielding its own value. -/
theorem mapM_yield (need : Need) {emit : Option α → Emission β} {demands : α → List Demand}
    {value : α → β} (onNull : emit none = .fail (.null need))
    (onEntry : ∀ entry, emit (some entry) = scope.yield (demands entry) (value entry))
    (entries : List (Option α)) :
    entries.mapM emit =
      scope.yield (entries.flatMap (entryDemands need demands))
        (entries.reduceOption.map value) := by
  induction entries with
  | nil => rfl
  | cons entry rest ih =>
    rw [List.mapM_cons, List.flatMap_cons, ih]
    cases entry with
    | none => rw [onNull]; rfl
    | some entry =>
      rw [onEntry, List.reduceOption_cons_of_some, List.map_cons]
      exact yield_bind (yield_map _)

/-- The outcome is the fault of the first demand that is refused, and otherwise the value. -/
theorem outcome_yield (demands : List Demand) (value : α) :
    (scope.yield demands value).outcome =
      (demands.findSome? scope.refusal?).elim (.ok value) .error := by
  induction demands with
  | nil => rfl
  | cons demand rest ih =>
    rw [yield, List.findSome?_cons, meet]
    cases refused : scope.refusal? demand with
    | some fault => rfl
    | none => rw [Emission.bind_of_ok rfl]; exact ih

/-- The record holds the built-ins of the demands before the first that is refused. -/
theorem used_yield (demands : List Demand) (value : α) :
    (scope.yield demands value).used =
      Demand.allBuiltins (demands.takeWhile fun demand => (scope.refusal? demand).isNone) := by
  induction demands with
  | nil => rfl
  | cons demand rest ih =>
    rw [yield, List.takeWhile_cons, meet]
    cases refused : scope.refusal? demand with
    | some fault => rfl
    | none => rw [Emission.bind_of_ok rfl, ih]; rfl

/-- When every demand is met the value is there and all built-ins are recorded. -/
theorem yield_of_met {demands : List Demand}
    (met : ∀ demand ∈ demands, scope.refusal? demand = none) (value : α) :
    scope.yield demands value = ⟨.ok value, Demand.allBuiltins demands⟩ := by
  apply Emission.ext
  · rw [outcome_yield, List.findSome?_eq_none_iff.mpr met]
    rfl
  · rw [used_yield, List.takeWhile_eq_self_iff.mpr]
    intro demand member
    simp [met demand member]

end Scope
end AbiTypings
