import AbiTypings.Proofs.Loading
import AbiTypings.Proofs.ValidOutcome

/-!
# Outcomes for loaded ABIs

A loaded ABI is valid, but it need not be emittable: among the aliases, among the fields of a struct
and in the places of names, targets and types a null is loaded. Exactly an emittable one has lenient
lines, and these are its strict lines when the element of every token is known. Otherwise the fault
is a null that is needed or, in strict mode, an unresolvable reference.
-/

namespace AbiTypings

namespace Abi

variable {abi : Abi}

/-- A text is loaded as a valid ABI. -/
theorem validate_of_parse {text : List Char} (parsed : parse text = .ok abi) :
    abi.validate = .ok () := by
  rw [parse] at parsed
  obtain ⟨value, -, loaded⟩ := bind_eq_ok_iff.mp parsed
  obtain ⟨members, -, -, listed⟩ := ofJson_eq_ok_iff.mp loaded
  exact validate_eq_ok_iff.mpr listed

/-- The outcome for a loaded ABI. It has lenient lines exactly when it is emittable in the style,
and these are its strict lines when the element of every token is known. A fault is a null that is
needed, which an emittable ABI does not have, or in strict mode an unresolvable reference. -/
theorem parse_transform {text : List Char} (parsed : parse text = .ok abi) (options : Options) :
    ((∃ lines, abi.transform options false = .ok lines) ↔
      abi.isEmittable options.style = true) ∧
    (∀ lines, abi.transform options true = .ok lines ↔
      abi.transform options false = .ok lines ∧
        ∀ token ∈ abi.tokens, abi.Knows (tokenElement token)) ∧
    ∀ strict fault, abi.transform options strict = .error fault →
      (abi.isEmittable options.style = false ∧ ∃ need, fault = .null need) ∨
        strict = true ∧ ∃ name token, fault = .unresolvable name token := by
  have valid := validate_of_parse parsed
  refine ⟨?_, fun lines => ?_, fun strict fault failed => ?_⟩
  · constructor
    · rintro ⟨lines, returned⟩
      obtain ⟨typings, found, -⟩ := transform_eq_ok_iff.mp returned
      exact ((typings_lenient_eq_ok_iff valid).mp found).1
    · intro emittable
      have found := (typings_lenient_eq_ok_iff valid).mpr ⟨emittable, rfl⟩
      exact ⟨_, transform_eq_ok_iff.mpr ⟨_, found, rfl⟩⟩
  · rw [transform_eq_ok_iff, transform_eq_ok_iff]
    constructor
    · rintro ⟨typings, found, same⟩
      obtain ⟨lenient, known⟩ := (typings_strict_eq_ok_iff_lenient valid).mp found
      exact ⟨⟨typings, lenient, same⟩, known⟩
    · rintro ⟨⟨typings, lenient, same⟩, known⟩
      exact ⟨typings, (typings_strict_eq_ok_iff_lenient valid).mpr ⟨lenient, known⟩, same⟩
  · exact typings_eq_error valid (transform_eq_error_iff.mp failed)

/-- The text of a struct without a name, with a field without a name. -/
def namelessText : String :=
  "\x7b\"structs\":[\x7b\"name\":null,\"fields\":[\x7b\"name\":null,\"type\":\"int8\"\x7d]\x7d]\x7d"

/-- The struct without a name, with a field without a name. -/
def nameless : Abi where
  structs := some [some { name := none, fields := some [some ⟨none, some "int8"⟩] }]

/-- A struct without a name has strict lines if names are kept and no lines in pascal case. -/
theorem parse_transform_nameless :
    parse namelessText.toList = .ok nameless ∧
      (∃ lines, nameless.transform { style := .identity } true = .ok lines) ∧
      ¬ ∃ lines, nameless.transform { style := .pascal } false = .ok lines := by
  have parsed : parse namelessText.toList = .ok nameless := by rfl
  obtain ⟨emitted, strict, -⟩ := parse_transform parsed { style := .identity }
  obtain ⟨lines, lenient⟩ := emitted.mpr (by decide)
  refine ⟨parsed, ⟨lines, (strict lines).mpr ⟨lenient, by decide⟩⟩, ?_⟩
  rw [(parse_transform parsed { style := .pascal }).1]
  decide

/-- An alias without a name. -/
def namelessAlias : Abi where
  aliases := some [some ⟨none, some "bool"⟩]

/-- An alias without a name is loaded and has no lines in pascal case, and neither has a null in the
place of an alias. -/
theorem parse_transform_nulls :
    parse "\x7b\"types\": [\x7b\"new_type_name\": null, \"type\": \"bool\"\x7d]\x7d".toList =
        .ok namelessAlias ∧
      parse "\x7b\"types\": [null]\x7d".toList = .ok { aliases := some [none] } ∧
      ∀ strict, namelessAlias.transform {} strict = .error (.null .words) ∧
        Abi.transform { aliases := some [none] } {} strict = .error (.null .aliasName) := by
  refine ⟨by rfl, by rfl, fun strict => ?_⟩
  cases strict with
  | false => exact ⟨by rfl, by rfl⟩
  | true => exact ⟨by rfl, by rfl⟩

end Abi
end AbiTypings
