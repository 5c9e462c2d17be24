import AbiTypings.Fault

/-!
# Consoles

A report for readers is shown by a console. The report says what is to be shown, lines in a markup,
tables and empty lines, and leaves to the console how: what the markup in a text means, how wide a
table may become, where the text of a cell is broken and whether there are colours. A console may
give up, and has then shown a part.
-/

namespace AbiTypings

/-- A column of a table. -/
structure Column where
  /-- The title. -/
  title : String
  /-- The style in which the texts of the column are shown. -/
  style : String
deriving DecidableEq, Repr

/-- A table without a frame. -/
structure Table where
  /-- Whether the titles of the columns are shown. -/
  showsTitles : Bool
  /-- The number of blanks before a cell. -/
  before : Nat
  /-- The number of blanks after a cell. -/
  after : Nat
  /-- The columns. -/
  columns : List Column
  /-- The rows with the texts of their cells; a cell may have none. -/
  rows : List (List (Option String))
deriving DecidableEq, Repr

/-- What a console can be asked to show. -/
inductive ConsoleItem where
  /-- A text in the markup of consoles, on a line of its own. -/
  | line (markup : String)
  /-- A table. -/
  | table (table : Table)
  /-- An empty line. -/
  | emptyLine
deriving DecidableEq, Repr

/-- What a console did. -/
structure Showing where
  /-- What it wrote to the standard output. -/
  text : String
  /-- Why it gave up, if it did. -/
  fault : Option ConsoleFault := none
deriving DecidableEq, Repr

/-- A console, by what it does when it is asked to show items in their order. -/
abbrev Console := List ConsoleItem → Showing

end AbiTypings
