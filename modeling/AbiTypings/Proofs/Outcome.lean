import AbiTypings.Proofs.Filled

/-!
# Outcomes of typings

The typings of an ABI are fixed by the ABI and the style; validity and the scope decide only whether
they are returned. A filled ABI that is not valid fails with the fault of its first variant or
struct without a list. A valid one always has lenient typings, and it has strict typings exactly
when the element of every token is known; these are then the same, and otherwise the fault is an
unresolvable reference.
-/

namespace AbiTypings

/-- The typings of an ABI in which every reference is resolved. -/
def Abi.resolvedTypings (style : NameStyle) (abi : Abi) : Typings where
  version := abi.version
  style := style
  builtins := Demand.allBuiltins (abi.demands style)
  declarations := abi.declarations style

/-- A refused reference is unresolvable, and its scope knows the declared names. -/
theorem Scope.unresolvable_of_refusal {scope : Scope} {demand : Demand} {fault : Fault}
    (refers : demand.isReference = true) (refused : scope.refusal? demand = some fault) :
    ∃ names element written, scope.declared = some names ∧ demand = .refer element written ∧
      scope.accepts element = false ∧ fault = .unresolvable element written := by
  cases demand with
  | absent need => contradiction
  | refer element written =>
    cases accepted : scope.accepts element with
    | true => simp [refusal?, accepted] at refused
    | false =>
      cases declared : scope.declared with
      | none => simp [accepts, declared] at accepted
      | some names =>
        refine ⟨names, element, written, rfl, rfl, accepted, ?_⟩
        simpa [refusal?, accepted] using refused.symm

namespace Abi

variable {abi : Abi} {style : NameStyle}

/-- An ABI that is not valid has no typings. -/
theorem typings_of_invalid {fault : Fault} (invalid : abi.validate = .error fault)
    (style : NameStyle) (strict : Bool) : abi.typings style strict = .error fault := by
  rw [typings, invalid]
  rfl

/-- A valid ABI with a scope has its typings unless a demand is refused, and then the first refusal
is the fault. -/
theorem typings_eq_of_scope {strict : Bool} {scope : Scope} (valid : abi.validate = .ok ())
    (resolver : abi.scope style strict = .ok scope) (styled : scope.style = style) :
    abi.typings style strict =
      ((abi.demands style).findSome? scope.refusal?).elim
        (.ok (abi.resolvedTypings style)) .error := by
  rw [typings, valid, resolver]
  change ((abi.emit scope).outcome >>= fun declarations =>
    Except.ok (Typings.mk abi.version style (abi.emit scope).used declarations)) = _
  rw [emit_eq, styled]
  cases refused : (abi.demands style).findSome? scope.refusal? with
  | some fault =>
    rw [Scope.outcome_yield, refused]
    rfl
  | none =>
    rw [Scope.yield_of_met (List.findSome?_eq_none_iff.mp refused)]
    rfl

/-- A valid emittable ABI has its typings unless a demand is refused, and then the first refusal is
the fault. -/
theorem typings_eq (emittable : abi.isEmittable style = true) (valid : abi.validate = .ok ())
    (strict : Bool) :
    abi.typings style strict =
      ((abi.demands style).findSome?
        (Scope.refusal? ⟨style, if strict then some abi.names else none⟩)).elim
          (.ok (abi.resolvedTypings style)) .error :=
  typings_eq_of_scope valid (scope_eq emittable strict) rfl

/-- Without declared names no reference is refused. -/
theorem refusal?_lenient {demand : Demand} (refers : demand.isReference = true) :
    Scope.refusal? ⟨style, none⟩ demand = none := by
  cases demand with
  | absent need => contradiction
  | refer element token => rfl

/-- The references of an emittable ABI are met in a scope that knows its names exactly when the
element of every token is known. -/
theorem findSome?_refusal?_eq_none_iff (emittable : abi.isEmittable style = true) :
    (abi.demands style).findSome? (Scope.refusal? ⟨style, some abi.names⟩) = none ↔
      ∀ token ∈ abi.tokens, abi.Knows (tokenElement token) := by
  have accepted (token : String) :
      Scope.accepts ⟨style, some abi.names⟩ (tokenElement token) = true ↔
        abi.Knows (tokenElement token) :=
    Scope.accepts_elementName rfl _
  rw [List.findSome?_eq_none_iff]
  constructor
  · intro allMet token member
    obtain ⟨demand, demandMember, refers⟩ :=
      (abi.exists_demand_iff style).mpr ⟨token, member, rfl⟩
    exact (accepted token).mp ((Scope.refusal?_eq_none_iff refers).mp (allMet demand demandMember))
  · intro known demand member
    obtain ⟨element, refers⟩ :=
      Option.isSome_iff_exists.mp (isReference_of_mem_demands emittable demand member)
    obtain ⟨token, tokenMember, rfl⟩ :=
      (abi.exists_demand_iff style).mp ⟨demand, member, refers⟩
    exact (Scope.refusal?_eq_none_iff refers).mpr ((accepted token).mpr (known token tokenMember))

/-- The declarations of an emittable ABI are emitted when no name has to be known. -/
theorem emit_eq_of_emittable (emittable : abi.isEmittable style = true) :
    abi.emit ⟨style, none⟩ =
      ⟨.ok (abi.declarations style), Demand.allBuiltins (abi.demands style)⟩ := by
  rw [emit_eq]
  exact Scope.yield_of_met (fun demand member =>
    refusal?_lenient (isReference_of_mem_demands emittable demand member)) _

/-- A valid emittable ABI has lenient typings. -/
theorem typings_lenient_of_emittable (emittable : abi.isEmittable style = true)
    (valid : abi.validate = .ok ()) :
    abi.typings style false = .ok (abi.resolvedTypings style) := by
  have met : (abi.demands style).findSome? (Scope.refusal? ⟨style, none⟩) = none :=
    List.findSome?_eq_none_iff.mpr fun demand member =>
      refusal?_lenient (isReference_of_mem_demands emittable demand member)
  rw [typings_eq emittable valid]
  simp [met]

/-- An emittable ABI has strict typings exactly when it is valid and the element of every token is
known. -/
theorem typings_strict_eq_ok_iff_of_emittable (emittable : abi.isEmittable style = true)
    {typings : Typings} :
    abi.typings style true = .ok typings ↔
      abi.validate = .ok () ∧ (∀ token ∈ abi.tokens, abi.Knows (tokenElement token)) ∧
        typings = abi.resolvedTypings style := by
  cases validated : abi.validate with
  | error fault => simp [typings_of_invalid validated]
  | ok done =>
    rw [typings_eq emittable validated, ← findSome?_refusal?_eq_none_iff emittable]
    cases refused : (abi.demands style).findSome? (Scope.refusal? ⟨style, some abi.names⟩) with
    | none => simp [refused, eq_comm]
    | some fault => simp [refused]

/-- Strict typings of a valid emittable ABI fail with an unresolvable reference only. -/
theorem typings_strict_eq_error_of_emittable (emittable : abi.isEmittable style = true)
    (valid : abi.validate = .ok ()) {fault : Fault}
    (failed : abi.typings style true = .error fault) :
    ∃ name token, fault = .unresolvable name token := by
  rw [typings_eq emittable valid] at failed
  cases refused : (abi.demands style).findSome? (Scope.refusal? ⟨style, some abi.names⟩) with
  | none => simp [refused] at failed
  | some refusal =>
    obtain ⟨demand, member, refusedDemand⟩ := List.exists_of_findSome?_eq_some refused
    have same : refusal = fault := by simpa [refused] using failed
    have refers := isReference_of_mem_demands emittable demand member
    obtain ⟨_, element, written, -, -, -, unresolvable⟩ :=
      Scope.unresolvable_of_refusal refers refusedDemand
    exact ⟨element, written, same.symm.trans unresolvable⟩

/-- The declarations of a filled ABI are emitted when no name has to be known. -/
theorem emit_lenient (filled : abi.isFilled = true) (style : NameStyle) :
    abi.emit ⟨style, none⟩ =
      ⟨.ok (abi.declarations style), Demand.allBuiltins (abi.demands style)⟩ :=
  emit_eq_of_emittable (isEmittable_of_isFilled filled style)

/-- A valid filled ABI has lenient typings. -/
theorem typings_lenient (filled : abi.isFilled = true) (valid : abi.validate = .ok ())
    (style : NameStyle) : abi.typings style false = .ok (abi.resolvedTypings style) :=
  typings_lenient_of_emittable (isEmittable_of_isFilled filled style) valid

/-- A filled ABI has strict typings exactly when it is valid and the element of every token is
known. -/
theorem typings_strict_eq_ok_iff (filled : abi.isFilled = true) {typings : Typings} :
    abi.typings style true = .ok typings ↔
      abi.validate = .ok () ∧ (∀ token ∈ abi.tokens, abi.Knows (tokenElement token)) ∧
        typings = abi.resolvedTypings style :=
  typings_strict_eq_ok_iff_of_emittable (isEmittable_of_isFilled filled style)

/-- Strict typings of a valid filled ABI fail with an unresolvable reference only. -/
theorem typings_strict_eq_error (filled : abi.isFilled = true) (valid : abi.validate = .ok ())
    {fault : Fault} (failed : abi.typings style true = .error fault) :
    ∃ name token, fault = .unresolvable name token :=
  typings_strict_eq_error_of_emittable (isEmittable_of_isFilled filled style) valid failed

/-! ## Lines -/

/-- The lines are those of the typings, in the layout. -/
theorem transform_eq (abi : Abi) (options : Options) (strict : Bool) :
    abi.transform options strict =
      (abi.typings options.style strict).map fun typings => typings.lines options.layout := by
  rw [transform]
  cases abi.typings options.style strict <;> rfl

/-- Lines are returned exactly when typings are. -/
theorem transform_eq_ok_iff {options : Options} {strict : Bool} {lines : List String} :
    abi.transform options strict = .ok lines ↔
      ∃ typings, abi.typings options.style strict = .ok typings ∧
        typings.lines options.layout = lines := by
  rw [transform_eq]
  cases abi.typings options.style strict <;> simp [Except.map]

/-- A fault is returned exactly when the typings have it. -/
theorem transform_eq_error_iff {options : Options} {strict : Bool} {fault : Fault} :
    abi.transform options strict = .error fault ↔
      abi.typings options.style strict = .error fault := by
  rw [transform_eq]
  cases abi.typings options.style strict <;> simp [Except.map]

/-- A filled ABI has strict lines exactly when it is valid and the element of every token is known,
and they are those of its typings. -/
theorem transform_strict_eq_ok_iff (filled : abi.isFilled = true) {options : Options}
    {lines : List String} :
    abi.transform options true = .ok lines ↔
      abi.validate = .ok () ∧ (∀ token ∈ abi.tokens, abi.Knows (tokenElement token)) ∧
        lines = (abi.resolvedTypings options.style).lines options.layout := by
  rw [transform_eq_ok_iff]
  constructor
  · rintro ⟨typings, found, rfl⟩
    obtain ⟨valid, known, rfl⟩ := (typings_strict_eq_ok_iff filled).mp found
    exact ⟨valid, known, rfl⟩
  · rintro ⟨valid, known, rfl⟩
    exact ⟨_, (typings_strict_eq_ok_iff filled).mpr ⟨valid, known, rfl⟩, rfl⟩

/-- An ABI that is not valid has no lines. -/
theorem transform_of_invalid {fault : Fault} (invalid : abi.validate = .error fault)
    (options : Options) (strict : Bool) : abi.transform options strict = .error fault :=
  transform_eq_error_iff.mpr (typings_of_invalid invalid options.style strict)

/-- The outcome for a filled ABI. A variant without members, or else a struct without fields, is
the fault in either mode. Otherwise there are lenient lines, and there are strict lines exactly when
the element of every token is a declared name, a built-in, `string` or `bool`; these are the lenient
ones, and the only other outcome is an unresolvable reference. -/
theorem transform_outcome {abi : Abi} (filled : abi.isFilled = true) (options : Options) :
    match abi.unlistedVariant?, abi.unlistedStruct? with
    | some variant, _ =>
      ∀ strict, abi.transform options strict =
        .error (.malformed (.variantWithoutMembers variant.name))
    | none, some struct =>
      ∀ strict, abi.transform options strict =
        .error (.malformed (.structWithoutFields struct.name))
    | none, none =>
      ∃ lines, abi.transform options false = .ok lines ∧
        ((∃ strictLines, abi.transform options true = .ok strictLines) ↔
          ∀ token ∈ abi.tokens, abi.Knows (tokenElement token)) ∧
        (∀ strictLines, abi.transform options true = .ok strictLines → strictLines = lines) ∧
        ∀ fault, abi.transform options true = .error fault →
          ∃ name token, fault = .unresolvable name token := by
  cases variants : abi.unlistedVariant? with
  | some variant =>
    have invalid : abi.validate = .error (.malformed (.variantWithoutMembers variant.name)) := by
      rw [validate_eq filled, variants]
    exact transform_of_invalid invalid options
  | none =>
    cases structs : abi.unlistedStruct? with
    | some struct =>
      have invalid : abi.validate = .error (.malformed (.structWithoutFields struct.name)) := by
        rw [validate_eq filled, variants, structs]
      exact transform_of_invalid invalid options
    | none =>
      have valid : abi.validate = .ok () := by rw [validate_eq filled, variants, structs]
      refine ⟨(abi.resolvedTypings options.style).lines options.layout, ?_, ?_, ?_, ?_⟩
      · exact transform_eq_ok_iff.mpr ⟨_, typings_lenient filled valid options.style, rfl⟩
      · constructor
        · rintro ⟨strictLines, returned⟩
          exact ((transform_strict_eq_ok_iff filled).mp returned).2.1
        · intro known
          exact ⟨_, (transform_strict_eq_ok_iff filled).mpr ⟨valid, known, rfl⟩⟩
      · intro strictLines returned
        exact ((transform_strict_eq_ok_iff filled).mp returned).2.2
      · intro fault failed
        have refused := transform_eq_error_iff.mp failed
        exact typings_strict_eq_error filled valid refused

/-- An alias of an undeclared type and a struct with a built-in in arrays. -/
def undeclaredTarget : Abi where
  aliases := some [some ⟨some "grant", some "permission_level[]?"⟩]
  structs := some [some ⟨some "packet", some "", some [some ⟨some "data", some "uint8[][]"⟩]⟩]

/-- The alias of an undeclared type has lenient lines and no strict ones. -/
theorem transform_outcome_undeclared :
    undeclaredTarget.isFilled = true ∧
      ∃ lines, undeclaredTarget.transform {} false = .ok lines ∧
        ¬ ∃ strictLines, undeclaredTarget.transform {} true = .ok strictLines := by
  have filled : undeclaredTarget.isFilled = true := by decide
  obtain ⟨lines, lenient, strict, -, -⟩ := transform_outcome filled {}
  refine ⟨filled, lines, lenient, ?_⟩
  rw [strict]
  decide

end Abi
end AbiTypings
