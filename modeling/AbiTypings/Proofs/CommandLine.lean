import AbiTypings.Command.Run
import AbiTypings.Proofs.Traversal

/-!
# Command lines for typings

What a command line asks for when it asks for typings: options, a mode, and a route from an input to
an output. A command line that gives each of them by an option is read as a job that asks for them,
whatever the values are.
-/

namespace AbiTypings

/-! ## Reading arguments -/

/-- Arguments are read as settings of options, whatever follows them. -/
def ReadsAs (specs : List OptionSpec) (arguments : List String)
    (settings : List (OptionKey × String)) : Prop :=
  ∀ mixed rest, readArguments specs mixed none (arguments ++ rest) =
    (readArguments specs mixed none rest).map fun read =>
      { read with settings := settings ++ read.settings }

/-- The arguments that give an option with its value, if there is one. -/
def valueArguments (option : String) : Option String → List String
  | none => []
  | some value => [option, value]

/-- The setting of an option with its value, if there is one. -/
def valueSettings (key : OptionKey) : Option String → List (OptionKey × String)
  | none => []
  | some value => [(key, value)]

/-- The arguments that give a flag, if it is set. -/
def flagArguments (option : String) (given : Bool) : List String := if given then [option] else []

/-- The value of a flag, if it is set. -/
def flagValue (given : Bool) : Option String := if given then some "" else none

namespace ReadsAs

variable {specs : List OptionSpec} {arguments others : List String}
  {settings otherSettings : List (OptionKey × String)} {option : String} {key : OptionKey}

/-- No arguments are read as no settings. -/
theorem nil : ReadsAs specs [] [] := by
  intro mixed rest
  rw [List.nil_append]
  cases readArguments specs mixed none rest <;> rfl

/-- An option that takes a value is read with the next argument, whatever that is. -/
theorem value (named : option ≠ "--") (dashed : isOption option.toList = true)
    (read : ∃ name, readOption specs option.toList = .ok ([], some ⟨key, name⟩))
    (given : Option String) :
    ReadsAs specs (valueArguments option given) (valueSettings key given) := by
  obtain ⟨name, read⟩ := read
  cases given with
  | none => exact nil
  | some value =>
    intro mixed rest
    simp only [valueArguments, valueSettings, List.cons_append, List.nil_append, readArguments,
      named, dashed, read, ↓reduceIte]
    cases readArguments specs mixed none rest <;> rfl

/-- A flag is read as its setting. -/
theorem flag (named : option ≠ "--") (dashed : isOption option.toList = true)
    (read : readOption specs option.toList = .ok ([(key, "")], none)) (given : Bool) :
    ReadsAs specs (flagArguments option given) (valueSettings key (flagValue given)) := by
  cases given with
  | false => exact nil
  | true =>
    intro mixed rest
    simp [flagArguments, flagValue, valueSettings, readArguments, named, dashed, read]

end ReadsAs

/-- A flag has a value exactly when it is set. -/
@[simp] theorem isSome_flagValue (given : Bool) : (flagValue given).isSome = given := by
  cases given <;> rfl

/-! ## Asking for typings -/

/-- A way from an input to an output, by the paths that the options name. -/
structure Route where
  /-- Whether log output is shown. -/
  verbose : Bool
  /-- The path of the input, if one is named. -/
  input : Option String
  /-- The path of the output, if one is named. -/
  output : Option String
deriving DecidableEq, Repr

namespace Route

/-- The endpoint that an option names. -/
def endpoint (path : Option String) : Endpoint := path.elim .standard .ofArgument

/-- The arguments of the command for typings. -/
def arguments (route : Route) (options : Options) (strict : Bool) : List String :=
  valueArguments "-i" route.input ++ valueArguments "-o" route.output
    ++ valueArguments "-f" (some options.style.name)
    ++ valueArguments "--indent" (some options.layout.indent)
    ++ valueArguments "-n" options.layout.enclosing
    ++ flagArguments "-e" options.layout.exported ++ flagArguments "--strict" strict

/-- The settings that these arguments give. -/
def settings (route : Route) (options : Options) (strict : Bool) : List (OptionKey × String) :=
  valueSettings .input route.input ++ valueSettings .output route.output
    ++ valueSettings .style (some options.style.name)
    ++ valueSettings .indent (some options.layout.indent)
    ++ valueSettings .enclosing options.layout.enclosing
    ++ valueSettings .exported (flagValue options.layout.exported)
    ++ valueSettings .strict (flagValue strict)

/-- The command line for typings. -/
def commandLine (route : Route) (options : Options) (strict : Bool) : List String :=
  flagArguments "-v" route.verbose ++ "gen" :: route.arguments options strict

/-- The job that the command line asks for. -/
def job (route : Route) (options : Options) (strict : Bool) : Job where
  command := .gen
  verbose := route.verbose
  arguments := { settings := route.settings options strict }
  source := endpoint route.input

end Route

end AbiTypings
