import AbiTypings.Command.Run
import AbiTypings.Proofs.Encoding
import AbiTypings.Proofs.Outcome

/-!
# Generating typings

A job that is performed is either refused, with an exit code that is not zero, or it has its input,
no operands and a style. To generate typings is then to render the ABI in the input: the fault of
the rendering is the fault of the job, and its text is delivered unchanged. What is reported on the
way depends on the input and the options only, and a job that is not verbose shows nothing of it.
-/

namespace AbiTypings

/-! ## Rendering -/

namespace Abi

/-- The text of the typings is made of the lines of the typings. -/
theorem render_eq (abi : Abi) (options : Options) (strict : Bool) :
    abi.render options strict =
      (abi.typings options.style strict).map fun typings =>
        textOfLines (typings.lines options.layout) := by
  rw [render, transform_eq]
  cases abi.typings options.style strict <;> rfl

end Abi

namespace Host

/-- The bytes of a text at an endpoint are loaded as the text is parsed, as it is read there. -/
theorem load_encode (host : Host) (source : Endpoint) (text : String) :
    host.load source (Text.Utf8.encode text) = Abi.parse (host.unify source text.toList) := by
  rw [load, Text.Utf8.decode_encode]
  rfl

/-- The text of the typings of the ABI in the bytes at an endpoint. -/
def render (host : Host) (source : Endpoint) (bytes : List UInt8) (options : Options)
    (strict : Bool) : Except Fault String :=
  (host.load source bytes).bind fun abi => abi.render options strict

/-- The events on the way from the bytes at an endpoint to the text of typings. -/
def reported (host : Host) (source : Endpoint) (bytes : List UInt8) (style : NameStyle)
    (strict : Bool) : List Event :=
  match host.load source bytes with
  | .error _ => []
  | .ok abi =>
    abi.loadedEvent ::
      match abi.typings style strict with
      | .error _ => []
      | .ok typings => [typings.emittedEvent]

end Host

/-! ## What is logged -/

namespace Logger

/-- The logger of a verbose job: it lets every event through, to a console. -/
def verbose : Logger where
  level := .number Event.level
  handlers := [.initial, ⟨.console Pattern.standard, .number Event.level⟩]

end Logger

namespace Outcome

/-- A fault of the job has the exit code one. -/
@[simp] theorem exitCode_ofFault (log : String) (fault : Fault) :
    (ofFault log fault).exitCode = 1 := by
  unfold ofFault
  split <;> rfl

/-- A text that was to be printed with an exit code other than zero does not end with zero. -/
theorem exitCode_printed_ne {exitCode : Nat} (failed : exitCode ≠ 0) (log text : String) :
    (printed exitCode log text).exitCode ≠ 0 := by
  unfold printed
  split
  · exact failed
  · rw [exitCode_ofFault]
    exact Nat.one_ne_zero

end Outcome

namespace Job

/-- The options that a job asks for, if it names a style. -/
def options? (job : Job) : Option Options :=
  (NameStyle.ofName? ((job.arguments.value? .style).getD Command.defaultStyle)).map
    fun style => ⟨style, job.layout⟩

/-- Delivers a text where the output goes, after what was logged. -/
def deliver (job : Job) (text log : String) : Delivery :=
  match job.destination with
  | .standard => .finished (.printed 0 log text)
  | .file path => .write path text log

/-- To generate typings is to render the ABI in the input. -/
theorem generate_eq {job : Job} {options : Options} (asked : job.options? = some options)
    (host : Host) (input : List UInt8) :
    job.generate host options.style input =
      let strict := job.arguments.has .strict
      let log := job.log (host.reported job.source input options.style strict)
      match host.render job.source input options strict with
      | .error fault => .finished (.ofFault log fault)
      | .ok text => job.deliver text log := by
  obtain ⟨style, -, rfl⟩ := Option.map_eq_some_iff.mp asked
  unfold generate Host.render Host.reported
  cases host.load job.source input with
  | error fault => rfl
  | ok abi =>
    simp only [Except.bind, Abi.render_eq]
    cases abi.typings style (job.arguments.has .strict) <;> rfl

/-- A job with its input, without operands and with a style does what its command says. -/
theorem perform_of_asked {job : Job} {options : Options} (host : Host) (bytes : List UInt8)
    (asked : job.options? = some options) (plain : job.arguments.operands = []) :
    job.perform host (.ok bytes) =
      match job.command with
      | .gen => job.generate host options.style bytes
      | .info => .finished (job.describe host options.style bytes) := by
  obtain ⟨style, named, rfl⟩ := Option.map_eq_some_iff.mp asked
  unfold perform
  simp only [plain, List.isEmpty_nil, ↓reduceIte, named]
  cases job.command <;> cases job.source <;> rfl

/-- A job that is performed is refused with an exit code that is not zero, unless it has its input,
no operands and a style. -/
theorem perform_cases (job : Job) (host : Host) (input : Except OpenFault (List UInt8)) :
    (∃ outcome, job.perform host input = .finished outcome ∧ outcome.exitCode ≠ 0) ∨
      ∃ bytes options, input = .ok bytes ∧ job.arguments.operands = [] ∧
        job.options? = some options := by
  have refused (level : CommandLevel) (fault : UsageFault) :
      ∃ outcome, Delivery.finished (.refused level fault) = .finished outcome ∧
        outcome.exitCode ≠ 0 :=
    ⟨_, rfl, by simp [Outcome.refused, Outcome.failed]⟩
  unfold perform options?
  dsimp only
  split
  · exact .inl ⟨_, rfl, by simp⟩
  · exact .inl (refused _ _)
  · exact .inl (refused _ _)
  · rename_i bytes
    split
    · rename_i plain
      cases NameStyle.ofName? ((job.arguments.value? .style).getD Command.defaultStyle) with
      | none => exact .inl ⟨_, rfl, Outcome.exitCode_printed_ne Nat.one_ne_zero _ _⟩
      | some style => exact .inr ⟨bytes, _, rfl, List.isEmpty_iff.mp plain, rfl⟩
    · exact .inl (refused _ _)

end Job
end AbiTypings
