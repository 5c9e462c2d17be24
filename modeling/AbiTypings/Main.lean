import AbiTypings.Command.Run

/-!
# The program

Reads the arguments, the files and the standard input that a command line names, and writes what the
run leaves behind. Everything else is decided by the commands. Tables are shown without styles, with
a tabulator after each cell.
-/

namespace AbiTypings

/-- An argument as a text of the commands. -/
def textOfArgument (argument : String) : String :=
  Text.ofPoints (argument.toList.map .char)

/-- The characters of a text. -/
def charactersOf (text : String) : String :=
  String.ofList ((Text.points text.toList).filterMap fun
    | .char c => some c
    | .lone _ => none)

/-- The cause of a system error as the commands know it. Error codes come with either sign. -/
def openFaultOfError : IO.Error → OpenFault
  | .noFileOrDirectory _ _ _ => .missing
  | .inappropriateType _ code details =>
    if code = 20 ∨ code = -20 then .notDirectory
    else if code = 21 ∨ code = -21 then .isDirectory
    else .refused details
  | .invalidArgument _ code details =>
    if code = 36 ∨ code = -36 then .tooLong else .refused details
  | .resourceExhausted _ code details =>
    if code = 28 ∨ code = -28 then .noRoom else .refused details
  | .noSuchThing _ code details =>
    if code = 6 ∨ code = -6 then .noDevice else .refused details
  | error => .refused (toString error)

/-- The outcome of an action on a file. -/
def opening {α : Type} (action : IO α) : IO (Except OpenFault α) := do
  try
    return .ok (← action)
  catch error =>
    return .error (openFaultOfError error)

/-- The rest of a stream. -/
partial def readStream (stream : IO.FS.Stream) (front : ByteArray) : IO ByteArray := do
  let part ← stream.read 65536
  if part.isEmpty then
    return front
  else
    readStream stream (front ++ part)

/-- The bytes at an endpoint. -/
def readEndpoint : Endpoint → IO (Except OpenFault (List UInt8))
  | .standard => do
    let bytes ← readStream (← IO.getStdin) .empty
    return .ok bytes.toList
  | .file path => opening do
    let bytes ← IO.FS.readBinFile (charactersOf path)
    return bytes.toList

/-- Writes bytes to the file at a path. -/
def writeBytes (path : String) (bytes : List UInt8) : IO Unit :=
  IO.FS.withFile path .write fun handle => do
    handle.write ⟨bytes.toArray⟩
    handle.flush

/-- A line without what stands between brackets in it. -/
def withoutMarkup (line : String) : String :=
  let parts := line.splitOn "["
  String.join (parts.take 1 ++ (parts.drop 1).map fun part =>
    String.intercalate "]" ((part.splitOn "]").drop 1))

/-- An item without styles. -/
def ConsoleItem.plain : ConsoleItem → String
  | .line markup => withoutMarkup markup ++ "\n"
  | .emptyLine => "\n"
  | .table asked =>
    let titles := asked.columns.map fun column => some column.title
    let rows := if asked.showsTitles then titles :: asked.rows else asked.rows
    String.join (rows.map fun row =>
      String.join (row.map fun cell => cell.getD "" ++ "\t") ++ "\n")

/-- The console of the program. It shows nothing of a text that has no bytes. -/
def plainConsole : Console := fun items =>
  let text := String.join (items.map ConsoleItem.plain)
  match Text.Utf8.encodeText text with
  | .ok _ => { text }
  | .error fault => { text := "", fault := some ⟨"encoding", fault.message⟩ }

/-- Writes an outcome and returns its exit code. -/
def conclude (outcome : Outcome) : IO UInt32 := do
  (← IO.getStdout).putStr (charactersOf outcome.stdout)
  (← IO.getStderr).putStr (charactersOf outcome.stderr)
  match outcome.unannounced with
  | some fault => (← IO.getStderr).putStrLn (charactersOf fault.message)
  | none => pure ()
  return UInt32.ofNat outcome.exitCode

/-- Runs a command line in the directory of the process. -/
def runProgram (commandLine : List String) : IO UInt32 := do
  let host : Host := { console := plainConsole, unifiesInput := false }
  match Job.ofCommandLine (commandLine.map textOfArgument) with
  | .error outcome => conclude outcome
  | .ok job =>
    match job.perform host (← readEndpoint job.source) with
    | .finished outcome => conclude outcome
    | .write path text log => do
      let encoded := Text.Utf8.encodeText text
      let bytes := encoded.toOption.getD []
      match encoded, ← opening (writeBytes (charactersOf path) bytes) with
      | .ok _, .ok () => conclude { exitCode := 0, stderr := log }
      | .error fault, .ok () => conclude (.ofFault log (.unencodable fault))
      | _, .error fault => conclude (.unwritten path log fault)

end AbiTypings

/-- Runs the program on its arguments. -/
def main (arguments : List String) : IO UInt32 := AbiTypings.runProgram arguments
