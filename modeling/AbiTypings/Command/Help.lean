import AbiTypings.Command.Option

/-!
# Commands and their help

The program has two commands, each with options of its own, and options in front of the command. The
tables of options are the only description of them: arguments are read by them and the help texts
are written from them.
-/

namespace AbiTypings

/-- A command of the program. -/
inductive Command where
  /-- Writes the typings of an ABI. -/
  | gen
  /-- Reports the summary of an ABI. -/
  | info
deriving DecidableEq, Repr

/-- A place on the command line where options are read. -/
inductive CommandLevel where
  /-- In front of the command. -/
  | program
  /-- After the command. -/
  | command (command : Command)
deriving DecidableEq, Repr

namespace Command

/-- The commands in the order of the help text. -/
def all : List Command := [.gen, .info]

/-- The name of a command. -/
def name : Command → String
  | .gen => "gen"
  | .info => "info"

/-- The command of a name. -/
def ofName? (name : String) : Option Command := all.find? (·.name = name)

/-- What a command does. -/
def summary : Command → String
  | .gen => "Generate TypeScript typings from an ABI file."
  | .info => "Display the declarations and built-ins an ABI produces."

/-- The style of identifiers when none is named. -/
def defaultStyle : String := "pascal"

/-- The option that names the style of identifiers. -/
def styleOption : OptionSpec :=
  { key := .style
    long := "--formatter"
    letter := some 'f'
    value := some "TEXT"
    help := "Type name format (pascal, camel, identity)" }

/-- The option that asks for help. -/
def helpOption : OptionSpec :=
  { key := .help, long := "--help", help := "Show this message and exit." }

/-- The option that names the input. -/
def inputOption (help : String) : OptionSpec :=
  { key := .input, long := "--input", letter := some 'i', value := some "FILENAME", help }

/-- The options of a command. -/
def options : Command → List OptionSpec
  | .gen => [
    inputOption "Input ABI file, - for stdin",
    { key := .output
      long := "--output"
      letter := some 'o'
      value := some "FILENAME"
      help := "Output file, - for stdout" },
    { key := .exported
      long := "--export"
      letter := some 'e'
      help := "Export types and interfaces" },
    { key := .enclosing
      long := "--namespace"
      letter := some 'n'
      value := some "TEXT"
      help := "Wrap declarations in a namespace" },
    { key := .indent
      long := "--indent"
      value := some "TEXT"
      help := "Indentation string  [default:     ]" },
    styleOption,
    { key := .strict
      long := "--strict"
      help := "Fail on references to undeclared types" },
    helpOption]
  | .info => [
    inputOption "Input ABI file  [required]",
    styleOption,
    { key := .json, long := "--json", help := "Output as JSON" },
    helpOption]

end Command

namespace CommandLevel

/-- The words that name a level. -/
def path : CommandLevel → String
  | .program => "cli"
  | .command chosen => "cli " ++ chosen.name

/-- The options of a level. -/
def options : CommandLevel → List OptionSpec
  | .program => [
    { key := .verbose
      long := "--verbose"
      letter := some 'v'
      help := "Log debug output to stderr" },
    Command.helpOption]
  | .command chosen => chosen.options

/-- What a level is for. -/
def summary : CommandLevel → String
  | .program => "EOSIO ABI to TypeScript typings generator."
  | .command chosen => chosen.summary

/-- The line that shows how a level is used. -/
def usage (level : CommandLevel) : String :=
  "Usage: " ++ level.path ++ " [OPTIONS]" ++
    match level with
    | .program => " COMMAND [ARGS]..."
    | .command _ => ""

end CommandLevel

/-- An option as the help text shows it. -/
def OptionSpec.usage (spec : OptionSpec) : String :=
  (spec.letter.map fun letter => letterName letter ++ ", ").getD "" ++ spec.long
    ++ (spec.value.map (" " ++ ·)).getD ""

/-- Lines of a word and its explanation, the explanations starting in one column. -/
def explained (entries : List (String × String)) : String :=
  let width := (entries.map (·.1.length)).foldl max 0
  String.join (entries.map fun (word, text) =>
    let gap := String.ofList (List.replicate (width - word.length) ' ')
    "  " ++ word ++ gap ++ "  " ++ text ++ "\n")

/-- The help text of a level. -/
def CommandLevel.help (level : CommandLevel) : String :=
  level.usage ++ "\n\n  " ++ level.summary ++ "\n\nOptions:\n"
    ++ explained (level.options.map fun spec => (spec.usage, spec.help))
    ++ match level with
      | .program =>
        "\nCommands:\n"
          ++ explained (Command.all.map fun command => (command.name, command.summary))
      | .command _ => ""

end AbiTypings
