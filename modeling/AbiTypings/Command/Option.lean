import AbiTypings.Text.Quoted
import AbiTypings.Text.Similarity

/-!
# Options of a command line

An option has a long name and possibly a letter, and either takes a value or is a flag. A value
stands after an equals sign or directly after the letter, or is the next argument, whatever that
looks like. Letters of flags may be run together. Two dashes end the options. Arguments are read
from left to right and the first fault ends the reading; an option may be repeated, and its last
value counts. A long name that is unknown is answered with the names it was probably meant to be.
-/

namespace AbiTypings

/-- What an option is for. -/
inductive OptionKey where
  /-- Shows log output. -/
  | verbose
  /-- Names the input. -/
  | input
  /-- Names the output. -/
  | output
  /-- Exports the declarations. -/
  | exported
  /-- Names the namespace. -/
  | enclosing
  /-- Gives the indentation. -/
  | indent
  /-- Names the style of identifiers. -/
  | style
  /-- Refuses undeclared types. -/
  | strict
  /-- Asks for the JSON report. -/
  | json
  /-- Asks for help. -/
  | help
deriving DecidableEq, Repr

/-- An option of a command. -/
structure OptionSpec where
  /-- What the option is for. -/
  key : OptionKey
  /-- Its long name, with the dashes. -/
  long : String
  /-- Its letter. -/
  letter : Option Char := none
  /-- The word for its value; a flag has none. -/
  value : Option String := none
  /-- What it does, for the help text. -/
  help : String
deriving DecidableEq, Repr

/-- The arguments of a command line in their parts. -/
structure Arguments where
  /-- The options given, in order, with their values; the value of a flag is empty. -/
  settings : List (OptionKey × String) := []
  /-- What is neither an option nor the value of one. -/
  operands : List String := []
deriving DecidableEq, Repr

namespace Arguments

/-- The last value given for an option. -/
def value? (arguments : Arguments) (key : OptionKey) : Option String :=
  arguments.settings.reverse.lookup key

/-- Whether an option is given. -/
def has (arguments : Arguments) (key : OptionKey) : Bool := (arguments.value? key).isSome

end Arguments

/-- Why arguments cannot be read. -/
inductive OptionFault where
  /-- The command has no such option; a long one may resemble others. -/
  | unknown (name : String) (close : List String)
  /-- The option needs a value and no argument is left. -/
  | valueMissing (name : String)
  /-- A value is given to a flag. -/
  | valueRefused (name : String)
deriving DecidableEq, Repr

/-- The question after a message on an unknown name, if other names are close to it. -/
def suggestion : List String → String
  | [] => ""
  | [name] => " Did you mean " ++ Text.quoted name ++ "?"
  | names => " (Did you mean one of: " ++ String.intercalate ", " (names.map Text.quoted) ++ "?)"

/-- The fault in words. -/
def OptionFault.message : OptionFault → String
  | .unknown name close => "No such option " ++ Text.quoted name ++ "." ++ suggestion close
  | .valueMissing name => "Option " ++ Text.quoted name ++ " requires an argument."
  | .valueRefused name => "Option " ++ Text.quoted name ++ " does not take a value."

/-- An option whose value is the next argument, as it was written. -/
structure Awaited where
  /-- What the option is for. -/
  key : OptionKey
  /-- The option as it was written. -/
  name : String
deriving DecidableEq, Repr

/-- An option with the letter as it is written. -/
def letterName (letter : Char) : String := String.ofList ['-', letter]

/-- The name of the option that letters start with, which may be half of a surrogate pair. -/
def firstLetterName (letters : List Char) : String :=
  String.ofList ('-' :: Text.codes ((Text.points letters).take 1))

/-- The options that run-together letters give, and the one whose value is still to come. -/
def readLetters (specs : List OptionSpec) :
    List Char → Except OptionFault (List (OptionKey × String) × Option Awaited)
  | [] => .ok ([], none)
  | letter :: rest =>
    match specs.find? (·.letter = some letter) with
    | none => .error (.unknown (firstLetterName (letter :: rest)) [])
    | some spec =>
      if spec.value.isNone then
        (readLetters specs rest).map fun (settings, awaited) =>
          ((spec.key, "") :: settings, awaited)
      else if rest.isEmpty then .ok ([], some ⟨spec.key, letterName letter⟩)
      else .ok ([(spec.key, String.ofList rest)], none)

/-- The text before the first equals sign and, if there is one, the text after it. -/
def splitEquals (argument : List Char) : String × Option String :=
  let name := String.ofList (argument.takeWhile (· ≠ '='))
  match argument.dropWhile (· ≠ '=') with
  | [] => (name, none)
  | _ :: value => (name, some (String.ofList value))

/-- The options that an argument gives, and the one whose value is still to come. -/
def readOption (specs : List OptionSpec) (argument : List Char) :
    Except OptionFault (List (OptionKey × String) × Option Awaited) :=
  let (name, value?) := splitEquals argument
  match specs.find? (·.long = name), value? with
  | some spec, none =>
    if spec.value.isNone then .ok ([(spec.key, "")], none) else .ok ([], some ⟨spec.key, name⟩)
  | some spec, some value =>
    if spec.value.isNone then .error (.valueRefused name) else .ok ([(spec.key, value)], none)
  | none, _ =>
    match argument with
    | '-' :: '-' :: _ => .error (.unknown name (Text.closeNames name (specs.map (·.long))))
    | _ => readLetters specs argument.tail

/-- Whether an argument is read as an option. -/
def isOption : List Char → Bool
  | '-' :: _ :: _ => true
  | _ => false

/-- The arguments in their parts. Unless operands may be mixed with options, everything from the
first operand on is an operand. -/
def readArguments (specs : List OptionSpec) (mixed : Bool) :
    Option Awaited → List String → Except OptionFault Arguments
  | none, [] => .ok {}
  | some awaited, [] => .error (.valueMissing awaited.name)
  | some awaited, value :: rest =>
    (readArguments specs mixed none rest).map fun arguments =>
      { arguments with settings := (awaited.key, value) :: arguments.settings }
  | none, argument :: rest =>
    if argument = "--" then .ok { operands := rest }
    else if isOption argument.toList then
      match readOption specs argument.toList with
      | .error fault => .error fault
      | .ok (settings, awaited) =>
        (readArguments specs mixed awaited rest).map fun arguments =>
          { arguments with settings := settings ++ arguments.settings }
    else if mixed then
      (readArguments specs mixed none rest).map fun arguments =>
        { arguments with operands := argument :: arguments.operands }
    else .ok { operands := argument :: rest }

end AbiTypings
