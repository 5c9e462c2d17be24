import AbiTypings.Json.Printer
import AbiTypings.Summary
import AbiTypings.Summary.Console

/-!
# Reports of a summary

A summary is reported as JSON text or as three tables on a console. In the JSON report the
declarations are an object with a member for each name, so of several declarations with one name the
last is reported, in the place of the first. The tables have a row for each declaration.
-/

namespace AbiTypings

/-- What the JSON report says of a declaration. -/
def SummaryItem.toJson (item : SummaryItem) : Json :=
  .object [
    ("name", .ofText item.identifier),
    ("kind", .text item.kind.word),
    ("detail", .ofText item.detail)]

namespace Summary

/-- The declarations by name; a name that is null is written as `null`. -/
def declarationMembers (summary : Summary) : Members :=
  (Json.assignAll (summary.items.map fun item => (item.name, item.toJson))).map
    fun (name, value) => (name.getD "null", value)

/-- The types of the built-ins by name, in the order of the registry. -/
def builtinMembers (summary : Summary) : Members :=
  summary.builtins.toList.map fun builtin => (builtin.spelling, .text builtin.target)

/-- The summary as a JSON value. -/
def toJson (summary : Summary) : Json :=
  .object [
    ("version", .ofText summary.version),
    ("declarations", .object summary.declarationMembers),
    ("builtins", .object summary.builtinMembers),
    ("lines", .integer summary.lineCount)]

/-- The JSON report. -/
def jsonReport (summary : Summary) : String := summary.toJson.pretty ++ "\n"

/-- The table of the ABI: its version, the number of declarations of each kind and the number of
lines. -/
def overview (summary : Summary) : Table where
  showsTitles := false
  before := 2
  after := 2
  columns := [⟨"Label", "dim"⟩, ⟨"Value", "white"⟩]
  rows :=
    let version := summary.version.getD ""
    let counts := DeclarationKind.all.map fun kind =>
      [some kind.title, some (toString (summary.count kind))]
    [some "Version", some (if version.isEmpty then "unknown" else version)]
      :: counts ++ [[some "Lines", some (toString summary.lineCount)]]

/-- The table of the declarations. -/
def declarationTable (summary : Summary) : Table where
  showsTitles := true
  before := 0
  after := 2
  columns := [⟨"Name", "white"⟩, ⟨"TypeScript", "yellow"⟩, ⟨"Kind", "dim"⟩, ⟨"Detail", "green"⟩]
  rows := summary.items.map fun item =>
    [item.name, item.identifier, some item.kind.word, item.detail]

/-- The table of the built-ins used. -/
def builtinTable (summary : Summary) : Table where
  showsTitles := false
  before := 2
  after := 2
  columns := [⟨"Name", "dim"⟩, ⟨"Type", "white"⟩]
  rows := summary.builtins.toList.map fun builtin => [some builtin.spelling, some builtin.target]

/-- A heading of the report in tables. -/
def heading (title : String) : ConsoleItem := .line ("[bold cyan]" ++ title ++ "[/bold cyan]")

/-- The report in tables. -/
def tableReport (summary : Summary) : List ConsoleItem :=
  [heading "ABI", .table summary.overview, .emptyLine,
    heading "Declarations", .table summary.declarationTable, .emptyLine,
    heading "Built-ins", .table summary.builtinTable]

end Summary
end AbiTypings
