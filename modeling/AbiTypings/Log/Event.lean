import AbiTypings.Text.Quoted
import AbiTypings.Typings

/-!
# Events

The program reports two events: an ABI was loaded, and declarations were emitted. An event has
fields that a log line can show: its level as a name and as a number, the part, the routine and the
line of the program that report it, and its message with the template and the arguments that it is
made of. Of the fields that say where and when the program runs little is known, and so only the
beginning of the record of all fields is.
-/

namespace AbiTypings

/-- What the program reports. -/
inductive Event where
  /-- An ABI was loaded, with the sizes of its collections. -/
  | loaded (version : Option String) (aliases variants structs : Nat)
  /-- Declarations were emitted. -/
  | emitted (lines builtins : Nat)
deriving DecidableEq, Repr

/-- The value of a field of an event. -/
inductive FieldValue where
  /-- A text. -/
  | text (value : String)
  /-- A number. -/
  | number (value : Int)
  /-- Something else, as it is shown. -/
  | other (shown : String)
  /-- Something of which only the beginning is known, as it is shown and as it is quoted. -/
  | begun (shown quoted : String)
deriving DecidableEq, Repr

namespace Event

/-- The last name of the part of the program that reports an event. -/
def part : Event → String
  | .loaded _ _ _ _ => "parser"
  | .emitted _ _ => "typescript"

/-- The full name of that part. -/
def source (event : Event) : String := "abi2ts.generator." ++ event.part

/-- The routine that reports an event. -/
def routine : Event → String
  | .loaded _ _ _ _ => "from_dict"
  | .emitted _ _ => "transform"

/-- The line of the program from which an event is reported. -/
def line : Event → Int
  | .loaded _ _ _ _ => 43
  | .emitted _ _ => 106

/-- An event in words. -/
def message : Event → String
  | .loaded version aliases variants structs =>
    "Loaded ABI " ++ shown version ++ ": " ++ toString aliases ++ " types, " ++ toString variants
      ++ " variants, " ++ toString structs ++ " structs"
  | .emitted lines builtins =>
    "Emitted " ++ toString lines ++ " lines, " ++ toString builtins ++ " builtins used"

/-- The template of the message. -/
def template : Event → String
  | .loaded _ _ _ _ => "Loaded ABI %s: %d types, %d variants, %d structs"
  | .emitted _ _ => "Emitted %d lines, %d builtins used"

/-- The arguments of the message, as they are shown. -/
def arguments : Event → String
  | .loaded version aliases variants structs =>
    let version := (version.map Text.quoted).getD "None"
    "(" ++ String.intercalate ", " (version :: [aliases, variants, structs].map toString) ++ ")"
  | .emitted lines builtins =>
    "(" ++ String.intercalate ", " ([lines, builtins].map toString) ++ ")"

/-- Events are of interest when looking for mistakes only. -/
def level : Int := 10

/-- The name of their level. -/
def levelName : String := "DEBUG"

/-- The value of the field with a key. -/
def field? (event : Event) (key : String) : Option FieldValue :=
  match key with
  | "name" => some (.text event.source)
  | "module" => some (.text event.part)
  | "filename" => some (.text (event.part ++ ".py"))
  | "funcName" => some (.text event.routine)
  | "lineno" => some (.number event.line)
  | "msg" => some (.text event.template)
  | "args" => some (.other event.arguments)
  | "message" => some (.text event.message)
  | "levelname" => some (.text levelName)
  | "levelno" => some (.number level)
  | "threadName" => some (.text "MainThread")
  | "processName" => some (.text "MainProcess")
  | "exc_info" | "exc_text" | "stack_info" => some (.other "None")
  | "pathname" => some (.begun "/" "'/")
  | "asctime" => some (.begun "20" "'20")
  | "created" => some (.begun "1" "1")
  | "msecs" | "relativeCreated" | "thread" | "process" => some (.begun "" "")
  | _ => none

/-- The record of all fields. -/
def record (event : Event) : FieldValue :=
  let entry (key shown : String) := Text.quoted key ++ ": " ++ shown
  let beginning := "\x7b" ++ String.intercalate ", " [
    entry "name" (Text.quoted event.source),
    entry "msg" (Text.quoted event.template),
    entry "args" event.arguments,
    entry "levelname" (Text.quoted levelName),
    entry "levelno" (toString level),
    entry "pathname" "'/"]
  .begun beginning beginning

end Event

/-- The event that an ABI was loaded. -/
def Abi.loadedEvent (abi : Abi) : Event :=
  .loaded abi.version abi.aliasList.length abi.variantList.length abi.structList.length

/-- The event that the declarations of typings were emitted. -/
def Typings.emittedEvent (typings : Typings) : Event :=
  .emitted typings.lineCount typings.builtins.size

end AbiTypings
