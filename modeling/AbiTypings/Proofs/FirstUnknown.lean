import AbiTypings.Proofs.Outcome

/-!
# The first unknown element

An emission is ended by the first demand that is refused, and what is recorded by then are the
built-ins of the demands before it. A filled ABI demands its tokens only, in their order, so the
emission ends at the first token whose element is not known; this token leaves no trace in the
record, because a token whose element is a built-in is never refused.
-/

namespace AbiTypings

/-- An element that may be referred to when some names are declared: one of these, a built-in,
`string` or `bool`. -/
def IsKnown (names : List String) (element : String) : Prop :=
  element ∈ names ∨ (∃ builtin : Builtin, builtin.spelling = element) ∨
    element = "string" ∨ element = "bool"

namespace Scope

variable {scope : Scope}

/-- A scope with declared names accepts exactly the elements of tokens that are known. -/
theorem accepts_tokenElement_iff {names : List String} (declared : scope.declared = some names)
    (token : String) :
    scope.accepts (tokenElement token) = true ↔ IsKnown names (tokenElement token) :=
  accepts_elementName declared _

/-- What stands under a demand that is refused fails. -/
theorem exists_fault_of_refusal {α : Type} {demands : List Demand} {demand : Demand}
    (member : demand ∈ demands) (refused : scope.refusal? demand ≠ none) (value : α) :
    ∃ fault, (scope.yield demands value).outcome = .error fault := by
  rw [outcome_yield]
  cases found : demands.findSome? scope.refusal? with
  | none => exact absurd (List.findSome?_eq_none_iff.mp found demand member) refused
  | some fault => exact ⟨fault, rfl⟩

/-- What fails under demands fails at the first demand that is refused, and has recorded the
built-ins of the demands before it. -/
theorem exists_first_refusal {α : Type} {demands : List Demand} {value : α} {fault : Fault}
    (failed : (scope.yield demands value).outcome = .error fault) :
    ∃ before demand after, demands = before ++ demand :: after ∧
      (∀ earlier ∈ before, scope.refusal? earlier = none) ∧
      scope.refusal? demand = some fault ∧
      (scope.yield demands value).used = Demand.allBuiltins before := by
  have refused : demands.findSome? scope.refusal? = some fault := by
    rw [outcome_yield] at failed
    cases found : demands.findSome? scope.refusal? with
    | none => simp [found] at failed
    | some refusal => simpa [found] using failed
  obtain ⟨before, demand, after, rfl, refusal, met⟩ := List.findSome?_eq_some_iff.mp refused
  refine ⟨before, demand, after, rfl, met, refusal, ?_⟩
  rw [used_yield, List.takeWhile_append_of_pos fun earlier member => by simp [met earlier member],
    List.takeWhile_cons_of_neg (by simp [refusal]), List.append_nil]

end Scope

namespace Abi

variable {abi : Abi} {style : NameStyle}

/-- The demands of an ABI before one that refers to an element are those of the tokens before a
token of that element. -/
theorem exists_tokens_of_demands {before after : List Demand} {element written : String}
    (demanded : abi.demands style = before ++ .refer element written :: after) :
    ∃ earlier token later, abi.tokens = earlier ++ token :: later ∧
      before.filterMap Demand.element? = earlier.map tokenElement ∧
      element = tokenElement token := by
  have elements : before.filterMap Demand.element? ++ element :: after.filterMap Demand.element? =
      abi.tokens.map tokenElement := by
    rw [← abi.elements_demands style, demanded, List.filterMap_append]
    rfl
  obtain ⟨earlier, rest, split, earlierElements, restElements⟩ :=
    List.map_eq_append_iff.mp elements.symm
  obtain ⟨token, later, rfl, same, -⟩ := List.map_eq_cons_iff.mp restElements
  exact ⟨earlier, token, later, split, earlierElements.symm, same.symm⟩

/-- The emission of a filled ABI fails only for an unresolvable reference: for the first token whose
element is not known, with that element. The built-ins recorded by then are those that were recorded
before and the elements of the earlier tokens. When names are declared and the element of a token is
not known, the emission does fail. -/
theorem emit_first_unknown {abi : Abi} (filled : abi.isFilled = true) (scope : Scope)
    (recorded : BuiltinSet) :
    (∀ fault, (abi.emit scope).outcome = .error fault →
      ∃ names earlier token later written, scope.declared = some names ∧
        abi.tokens = earlier ++ token :: later ∧
        (∀ other ∈ earlier, IsKnown names (tokenElement other)) ∧
        ¬ IsKnown names (tokenElement token) ∧
        fault = .unresolvable (tokenElement token) written ∧
        ∀ builtin, (recorded ∪ (abi.emit scope).used).contains builtin = true ↔
          recorded.contains builtin = true ∨
            ∃ other ∈ earlier, tokenElement other = builtin.spelling) ∧
    ∀ names, scope.declared = some names →
      (∃ token ∈ abi.tokens, ¬ IsKnown names (tokenElement token)) →
        ∃ fault, (abi.emit scope).outcome = .error fault := by
  have references := isReference_of_mem_demands (isEmittable_of_isFilled filled scope.style)
  rw [emit_eq]
  constructor
  · intro fault failed
    obtain ⟨before, demand, after, demanded, met, refused, used⟩ :=
      Scope.exists_first_refusal failed
    obtain ⟨names, element, written, declared, rfl, unaccepted, rfl⟩ :=
      Scope.unresolvable_of_refusal (references demand (by simp [demanded])) refused
    obtain ⟨earlier, token, later, split, elements, rfl⟩ := exists_tokens_of_demands demanded
    -- what holds of the earlier tokens is read off the demands before the refused one
    have inside (element : String) : (∃ demand ∈ before, demand.element? = some element) ↔
        ∃ other ∈ earlier, tokenElement other = element := by
      rw [← List.mem_filterMap, elements, List.mem_map]
    refine ⟨names, earlier, token, later, written, declared, split, ?_, ?_, rfl, ?_⟩
    · intro other member
      obtain ⟨demand, demandMember, refers⟩ := (inside _).mpr ⟨other, member, rfl⟩
      rw [← Scope.accepts_tokenElement_iff declared, ← Scope.refusal?_eq_none_iff refers]
      exact met demand demandMember
    · rw [← Scope.accepts_tokenElement_iff declared, unaccepted]
      exact Bool.false_ne_true
    · intro builtin
      rw [used, BuiltinSet.contains_union, Bool.or_eq_true, Demand.contains_allBuiltins, inside]
  · rintro names declared ⟨token, member, unknown⟩
    obtain ⟨demand, demandMember, refers⟩ :=
      (abi.exists_demand_iff scope.style).mpr ⟨token, member, rfl⟩
    refine Scope.exists_fault_of_refusal demandMember ?_ _
    rw [Ne, Scope.refusal?_eq_none_iff refers, Scope.accepts_tokenElement_iff declared]
    exact unknown

/-- An ABI whose fourth token refers to a type that is declared nowhere, between references to
built-ins. -/
def laterUnknown : Abi where
  aliases := some [some ⟨some "owner", some "name[]?"⟩]
  variants := some [some ⟨some "entry", some [some "owner", some "string[][]"]⟩]
  structs := some [some ⟨some "row", some "asset",
    some [some ⟨some "grant", some "permission[]?"⟩, some ⟨some "size", some "uint8"⟩]⟩]

/-- The emission of `laterUnknown` ends at the token of the type that is declared nowhere, with the
built-ins of the tokens before it and the one that was recorded before. -/
theorem emit_first_unknown_laterUnknown :
    laterUnknown.isFilled = true ∧
      (laterUnknown.emit ⟨.pascal, some laterUnknown.names⟩).outcome =
        .error (.unresolvable "permission" "permission[]") ∧
      ∃ earlier later, laterUnknown.tokens = earlier ++ "permission[]?" :: later ∧
        ∀ builtin,
          (BuiltinSet.singleton .bytes ∪
            (laterUnknown.emit ⟨.pascal, some laterUnknown.names⟩).used).contains builtin = true ↔
            (BuiltinSet.singleton .bytes).contains builtin = true ∨
              ∃ other ∈ earlier, tokenElement other = builtin.spelling := by
  have filled : laterUnknown.isFilled = true := by decide
  have failed : (laterUnknown.emit ⟨.pascal, some laterUnknown.names⟩).outcome =
      .error (.unresolvable "permission" "permission[]") := by rfl
  have only : ∀ token ∈ laterUnknown.tokens,
      "permission" = tokenElement token → token = "permission[]?" := by decide
  obtain ⟨localised, -⟩ :=
    emit_first_unknown filled ⟨.pascal, some laterUnknown.names⟩ (.singleton .bytes)
  obtain ⟨_, earlier, token, later, _, -, split, -, -, same, used⟩ := localised _ failed
  obtain rfl := only token (by simp [split]) (Fault.unresolvable.inj same).1
  exact ⟨filled, failed, earlier, later, split, used⟩

end Abi
end AbiTypings
