import AbiTypings.Command.Directory
import AbiTypings.Command.Help
import AbiTypings.Log
import AbiTypings.Summary.Report
import AbiTypings.Text.ControlSequence

/-!
# Running a command

A command line is interpreted first: it ends with a help text or a refusal, or asks for a job. A job
names its input, which is opened before anything else of the job is looked at. Performing it with
the input gives a delivery: an outcome, or a text that is still to be written to a file. The file is
opened for writing only then, so a job that fails leaves all files as they were, and the output may
replace the input. A text that has no bytes is found out one step later, when the file is open and
empty.
-/

namespace AbiTypings

/-- What a run of the program leaves behind apart from files. -/
structure Outcome where
  /-- The exit code. -/
  exitCode : Nat
  /-- What was written to the standard output. -/
  stdout : String := ""
  /-- What was written to the standard error. -/
  stderr : String := ""
  /-- The fault that the program does not announce. -/
  unannounced : Option Fault := none
deriving DecidableEq, Repr

/-- Where input comes from and output goes. -/
inductive Endpoint where
  /-- The standard input or output. -/
  | standard
  /-- The file at a path. -/
  | file (path : String)
deriving DecidableEq, Repr

/-- The endpoint of an argument: a dash stands for the standard one. -/
def Endpoint.ofArgument (argument : String) : Endpoint :=
  if argument = "-" then .standard else .file argument

/-- Why a command line is refused. -/
inductive UsageFault where
  /-- An option cannot be read. -/
  | option (fault : OptionFault)
  /-- No command is given. -/
  | missingCommand
  /-- No command has the name. -/
  | unknownCommand (name : String)
  /-- The input is not named. -/
  | missingInput
  /-- The input cannot be opened. -/
  | badInput (path : String) (fault : OpenFault)
  /-- There are arguments that mean nothing. -/
  | extraArguments (arguments : List String)
deriving DecidableEq, Repr

namespace UsageFault

/-- The fault in words. -/
def message : UsageFault → String
  | .option fault => fault.message
  | .missingCommand => "Missing command."
  | .unknownCommand name =>
    "No such command " ++ Text.quoted name ++ "."
      ++ suggestion (Text.closeNames name (Command.all.map Command.name))
  | .missingInput => "Missing option '--input' / '-i'."
  | .badInput path fault =>
    "Invalid value for '--input' / '-i': '" ++ path ++ "': " ++ fault.message
  | .extraArguments arguments =>
    "Got unexpected extra argument" ++ (if arguments.length = 1 then "" else "s") ++ " ("
      ++ String.intercalate " " arguments ++ ")"

/-- Whether the message follows the usage line. -/
def showsUsage : UsageFault → Bool
  | .option (.valueMissing _) | .option (.valueRefused _) => false
  | _ => true

end UsageFault

namespace Outcome

/-- A message that ends the run, after what was logged. Control sequences that the message quotes
from the input are left out, and halves of surrogate pairs are escaped. -/
def failed (exitCode : Nat) (log message : String) : Outcome :=
  let shown := Text.escapedHalves (String.ofList (Text.withoutSequences message.toList))
  { exitCode, stderr := log ++ "Error: " ++ shown ++ "\n" }

/-- The outcome of a refused command line. -/
def refused (level : CommandLevel) (fault : UsageFault) : Outcome :=
  let usage :=
    if fault.showsUsage then
      level.usage ++ "\nTry '" ++ level.path ++ " --help' for help.\n\n"
    else ""
  failed 2 usage fault.message

/-- The outcome of asking for help. -/
def help (level : CommandLevel) : Outcome := { exitCode := 0, stdout := level.help }

/-- The outcome of a fault of the job. -/
def ofFault (log : String) (fault : Fault) : Outcome :=
  if fault.isAnnounced then failed 1 log fault.message
  else { exitCode := 1, stderr := log, unannounced := some fault }

/-- The outcome of printing a text, of which nothing is printed if it has no bytes. -/
def printed (exitCode : Nat) (log text : String) : Outcome :=
  match Text.Utf8.encodeText text with
  | .ok _ => { exitCode, stdout := text, stderr := log }
  | .error fault => ofFault log (.unencodable fault)

/-- The outcome of what a console did. -/
def shown (log : String) (showing : Showing) : Outcome :=
  match showing.fault with
  | none => { exitCode := 0, stdout := showing.text, stderr := log }
  | some fault => { ofFault log (.console fault) with stdout := showing.text }

/-- The outcome of a file that cannot be opened or written. -/
def unwritten (path log : String) : OpenFault → Outcome
  | .nullCharacter => ofFault log .nullInPath
  | .noRoom => ofFault log .noRoom
  | fault => failed 1 log ("Could not open file " ++ Text.quoted path ++ ": " ++ fault.message)

end Outcome

/-! ## Hosts -/

/-- What a run finds where it takes place. -/
structure Host where
  /-- The console for reports in tables. -/
  console : Console
  /-- Whether the standard input is read with a line feed for each end of a line, as files are. -/
  unifiesInput : Bool

namespace Host

/-- A text as it is read from an endpoint. -/
def unify (host : Host) (source : Endpoint) (text : List Char) : List Char :=
  if source = .standard ∧ host.unifiesInput = false then text else Text.unifyNewlines text

/-- The ABI that the bytes at an endpoint describe. -/
def load (host : Host) (source : Endpoint) (bytes : List UInt8) : Except Fault Abi := do
  Abi.parse (host.unify source (← (Text.Utf8.decode bytes).mapError .undecodable))

end Host

/-! ## Jobs -/

/-- What a command line asks for. -/
structure Job where
  /-- The command. -/
  command : Command
  /-- Whether log output is shown. -/
  verbose : Bool
  /-- The arguments of the command. -/
  arguments : Arguments
  /-- Where the input comes from. -/
  source : Endpoint
deriving DecidableEq, Repr

namespace Job

/-- The job of a command, or what its arguments end with. -/
def ofArguments (command : Command) (verbose : Bool) (arguments : List String) :
    Except Outcome Job := do
  let level := CommandLevel.command command
  let arguments ← (readArguments command.options true none arguments).mapError
    fun fault => .refused level (.option fault)
  if arguments.has .help then
    throw (.help level)
  match arguments.value? .input, command with
  | some input, _ => return ⟨command, verbose, arguments, .ofArgument input⟩
  | none, .gen => return ⟨command, verbose, arguments, .standard⟩
  | none, .info => throw (.refused level .missingInput)

/-- The job that a command line asks for, or what the command line ends with. When no command has
the name that is given, options are sought from the name on, so that one behind two dashes is still
found. -/
def ofCommandLine (commandLine : List String) : Except Outcome Job := do
  let level := CommandLevel.program
  let read (arguments : List String) : Except Outcome Arguments := do
    let arguments ← (readArguments level.options false none arguments).mapError
      fun fault => .refused level (.option fault)
    if arguments.has .help then throw (.help level) else return arguments
  if commandLine.isEmpty then
    throw { exitCode := 2, stderr := level.help }
  let arguments ← read commandLine
  match arguments.operands with
  | [] => throw (.refused level .missingCommand)
  | name :: rest =>
    match Command.ofName? name with
    | some command => ofArguments command (arguments.has .verbose) rest
    | none => do
      let _ ← read (name :: rest)
      throw (.refused level (.unknownCommand name))

/-- The bytes that the job reads, of a directory and a standard input. -/
def input (job : Job) (directory : Directory) (stdin : List UInt8) :
    Except OpenFault (List UInt8) :=
  match job.source with
  | .standard => .ok stdin
  | .file path => directory.read path

/-- What the run of the job shows of events on the standard error, which takes any text. -/
def log (job : Job) (events : List Event) : String :=
  let logger : Logger := {}
  let request : LogRequest := { level := .direct (.number Event.level) }
  Text.escapedHalves
    (if job.verbose then (logger.configure request).2.consoleText events
      else logger.consoleText events)

/-- The layout that the job asks for. -/
def layout (job : Job) : Layout :=
  { indent := (job.arguments.value? .indent).getD "    "
    exported := job.arguments.has .exported
    enclosing := job.arguments.value? .enclosing }

/-- Where the output goes. -/
def destination (job : Job) : Endpoint := .ofArgument ((job.arguments.value? .output).getD "-")

end Job

/-! ## Performing a job -/

/-- What performing a job leads to. -/
inductive Delivery where
  /-- The run is over. -/
  | finished (outcome : Outcome)
  /-- A text is to be written to the file at a path, after what was logged. -/
  | write (path text log : String)
deriving DecidableEq, Repr

namespace Job

/-- Writes the typings of the ABI in the input. -/
def generate (host : Host) (job : Job) (style : NameStyle) (input : List UInt8) : Delivery :=
  match host.load job.source input with
  | .error fault => .finished (.ofFault (job.log []) fault)
  | .ok abi =>
    match abi.typings style (job.arguments.has .strict) with
    | .error fault => .finished (.ofFault (job.log [abi.loadedEvent]) fault)
    | .ok typings =>
      let text := textOfLines (typings.lines job.layout)
      let log := job.log [abi.loadedEvent, typings.emittedEvent]
      match job.destination with
      | .standard => .finished (.printed 0 log text)
      | .file path => .write path text log

/-- Reports the summary of the ABI in the input. A report in JSON is in ASCII, so it has bytes. -/
def describe (host : Host) (job : Job) (style : NameStyle) (input : List UInt8) : Outcome :=
  match host.load job.source input with
  | .error fault => .ofFault (job.log []) fault
  | .ok abi =>
    let log := job.log [abi.loadedEvent]
    match abi.summarize style with
    | .error fault => .ofFault log fault
    | .ok summary =>
      if job.arguments.has .json then
        { exitCode := 0, stdout := summary.jsonReport, stderr := log }
      else .shown log (host.console summary.tableReport)

/-- Performs a job with the input that was opened. -/
def perform (host : Host) (job : Job) (input : Except OpenFault (List UInt8)) : Delivery :=
  let refused (fault : UsageFault) : Delivery :=
    .finished (.refused (.command job.command) fault)
  match job.source, input with
  | _, .error .nullCharacter => .finished (.ofFault "" .nullInPath)
  | .file path, .error fault => refused (.badInput path fault)
  | .standard, .error fault => refused (.badInput "-" fault)
  | _, .ok bytes =>
    if job.arguments.operands.isEmpty then
      let name := (job.arguments.value? .style).getD Command.defaultStyle
      match NameStyle.ofName? name, job.command with
      | none, _ => .finished (.printed 1 "" ("Unknown formatter: " ++ name ++ "\n"))
      | some style, .gen => job.generate host style bytes
      | some style, .info => .finished (job.describe host style bytes)
    else refused (.extraArguments job.arguments.operands)

end Job

/-- Writes a text to the file at a path, after what was logged. The bytes of the text are sought
only when the file has been opened, which empties it. -/
def Directory.deliver (directory : Directory) (path text log : String) : Outcome × Directory :=
  match Text.Utf8.encodeText text with
  | .ok bytes =>
    match directory.write path bytes with
    | .ok changed => ({ exitCode := 0, stderr := log }, changed)
    | .error fault => (.unwritten path log fault, directory)
  | .error unencodable =>
    match directory.truncate path with
    | .ok changed => (.ofFault log (.unencodable unencodable), changed)
    | .error fault => (.unwritten path log fault, directory)

/-- Runs a command line on a host, with a directory and a standard input. -/
def runCommandLine (host : Host) (directory : Directory) (stdin : List UInt8)
    (commandLine : List String) : Outcome × Directory :=
  match Job.ofCommandLine commandLine with
  | .error outcome => (outcome, directory)
  | .ok job =>
    match job.perform host (job.input directory stdin) with
    | .finished outcome => (outcome, directory)
    | .write path text log => directory.deliver path text log

end AbiTypings
