import AbiTypings.Proofs.Assignments
import AbiTypings.Proofs.Runs

/-!
# Reports of declarations

A command line for the summary of an ABI ends with the exit code zero only if its input has an ABI
with a summary, and then it has printed the summary. In JSON there is a member for each name, in the
place of the first declaration of the name and with what is said of the last one, so exactly the
declarations whose name is declared again are lost. The console is asked for a table with a row for
each declaration. What it shows then is its own matter.
-/

namespace AbiTypings

/-- A command line asks for the summary of an ABI, in JSON or in tables. -/
def AsksSummary (commandLine : List String) (json : Bool) : Prop :=
  ∃ job, Job.ofCommandLine commandLine = .ok job ∧ job.command = .info ∧
    job.arguments.has .json = json

/-- The ABI in the input of a command line has a summary in the style that is asked for. -/
def Summarizes (host : Host) (directory : Directory) (stdin : List UInt8)
    (commandLine : List String) (abi : Abi) (summary : Summary) : Prop :=
  ∃ job bytes options, Job.ofCommandLine commandLine = .ok job ∧
    job.input directory stdin = .ok bytes ∧ job.arguments.operands = [] ∧
    job.options? = some options ∧ host.load job.source bytes = .ok abi ∧
    abi.summarize options.style = .ok summary

/-! ## Consoles -/

namespace Outcome

variable {log : String} {showing : Showing}

/-- What a console did ends with the exit code zero exactly if it did not give up. -/
theorem exitCode_shown_eq_zero_iff : (shown log showing).exitCode = 0 ↔ showing.fault = none := by
  cases gaveUp : showing.fault <;> simp [shown, gaveUp]

/-- What a console wrote is written, whether it gave up or not. -/
theorem stdout_shown : (shown log showing).stdout = showing.text := by
  cases gaveUp : showing.fault <;> simp [shown, gaveUp]

end Outcome

/-! ## Runs -/

section Runs

variable {host : Host} {directory : Directory} {stdin : List UInt8} {commandLine : List String}
  {json : Bool}

/-- A run for the summary of an ABI prints the summary or has a console show it, if there is one. -/
theorem runCommandLine_of_summarizes (asked : AsksSummary commandLine json) {abi : Abi}
    {summary : Summary} (summarizes : Summarizes host directory stdin commandLine abi summary) :
    ∃ log, (runCommandLine host directory stdin commandLine).1 =
      if json then { exitCode := 0, stdout := summary.jsonReport, stderr := log }
      else .shown log (host.console summary.tableReport) := by
  obtain ⟨job, read, command, rfl⟩ := asked
  obtain ⟨other, bytes, options, otherRead, given, plain, styled, loaded, summarized⟩ := summarizes
  obtain rfl : job = other := Except.ok.inj (read.symm.trans otherRead)
  have performed := Job.perform_of_asked host bytes styled plain
  rw [command] at performed
  refine ⟨job.log [abi.loadedEvent], ?_⟩
  simp only [runCommandLine, read, given, performed, Job.describe, loaded, summarized]

/-- A run for the summary of an ABI ends with the exit code zero only if there is one. -/
theorem exists_summarizes_of_accepted (asked : AsksSummary commandLine json)
    (accepted : (runCommandLine host directory stdin commandLine).1.exitCode = 0) :
    ∃ abi summary, Summarizes host directory stdin commandLine abi summary := by
  obtain ⟨job, read, command, -⟩ := asked
  simp only [runCommandLine, read] at accepted
  rcases job.perform_cases host (job.input directory stdin) with
    ⟨outcome, finished, refused⟩ | ⟨bytes, options, given, plain, styled⟩
  · rw [finished] at accepted
    exact absurd accepted refused
  · have performed := Job.perform_of_asked host bytes styled plain
    rw [command] at performed
    simp only [given, performed, Job.describe] at accepted
    cases loaded : host.load job.source bytes with
    | error fault => simp [loaded] at accepted
    | ok abi =>
      cases summarized : abi.summarize options.style with
      | error fault => simp [loaded, summarized] at accepted
      | ok summary =>
        exact ⟨abi, summary, job, bytes, options, read, given, plain, styled, loaded, summarized⟩

/-- A run for the summary of an ABI that ends with the exit code zero prints the summary in JSON, or
has a console show it that does not give up. -/
theorem exists_report_of_accepted (asked : AsksSummary commandLine json)
    (accepted : (runCommandLine host directory stdin commandLine).1.exitCode = 0) :
    ∃ abi summary, Summarizes host directory stdin commandLine abi summary ∧
      if json then (runCommandLine host directory stdin commandLine).1.stdout = summary.jsonReport
      else host.console summary.tableReport =
        ⟨(runCommandLine host directory stdin commandLine).1.stdout, none⟩ := by
  obtain ⟨abi, summary, summarizes⟩ := exists_summarizes_of_accepted asked accepted
  obtain ⟨log, ran⟩ := runCommandLine_of_summarizes asked summarizes
  refine ⟨abi, summary, summarizes, ?_⟩
  rw [ran] at accepted ⊢
  cases json with
  | true => rfl
  | false =>
    have ended := Outcome.exitCode_shown_eq_zero_iff.mp accepted
    rw [if_neg Bool.false_ne_true, if_neg Bool.false_ne_true, Outcome.stdout_shown, ← ended]

/-- There is at most one summary. -/
theorem Summarizes.unique {abi other : Abi} {summary otherSummary : Summary}
    (summarizes : Summarizes host directory stdin commandLine abi summary)
    (otherSummarizes : Summarizes host directory stdin commandLine other otherSummary) :
    abi = other ∧ summary = otherSummary := by
  obtain ⟨job, bytes, options, read, given, -, styled, loaded, summarized⟩ := summarizes
  obtain ⟨_, _, _, otherRead, otherGiven, -, otherStyled, otherLoaded, otherSummarized⟩ :=
    otherSummarizes
  obtain rfl := Except.ok.inj (read.symm.trans otherRead)
  obtain rfl := Except.ok.inj (given.symm.trans otherGiven)
  obtain rfl := Option.some.inj (styled.symm.trans otherStyled)
  obtain rfl := Except.ok.inj (loaded.symm.trans otherLoaded)
  exact ⟨rfl, Except.ok.inj (summarized.symm.trans otherSummarized)⟩

end Runs

/-! ## Declarations -/

/-- What a report says of a declaration: its identifier, its kind and its detail. -/
def SummaryItem.entry (item : SummaryItem) : Json :=
  .object [("name", .ofText item.identifier), ("kind", .text item.kind.word),
    ("detail", .ofText item.detail)]

/-- What a run for a summary reports of the declarations, if it ends with the exit code zero. In
JSON, they are an object that keeps the last of the declarations of each name; a name that is null
is written as `null`. So the object has an entry for each declaration exactly if no name is declared
twice. In tables, the report is what the console shows when it is asked for a table with a row for
each declaration, between the overview and the built-ins. -/
theorem info_declarations {host : Host} {directory : Directory} {stdin : List UInt8}
    {commandLine : List String} {json : Bool} (asked : AsksSummary commandLine json)
    (accepted : (runCommandLine host directory stdin commandLine).1.exitCode = 0) :
    ∃ abi summary, Summarizes host directory stdin commandLine abi summary ∧
      let report := (runCommandLine host directory stdin commandLine).1.stdout
      if json then
        ∃ entries, Json.KeepsLast entries (summary.items.map fun item => (item.name, item.entry)) ∧
          report = Json.pretty (.object [
            ("version", .ofText summary.version),
            ("declarations", .object (entries.map fun (name, value) => (name.getD "null", value))),
            ("builtins", .object summary.builtinMembers),
            ("lines", .integer summary.lineCount)]) ++ "\n"
      else
        host.console [
          .line "[bold cyan]ABI[/bold cyan]", .table summary.overview, .emptyLine,
          .line "[bold cyan]Declarations[/bold cyan]",
          .table {
            showsTitles := true
            before := 0
            after := 2
            columns := [⟨"Name", "white"⟩, ⟨"TypeScript", "yellow"⟩, ⟨"Kind", "dim"⟩,
              ⟨"Detail", "green"⟩]
            rows := summary.items.map fun item =>
              [item.name, item.identifier, some item.kind.word, item.detail] },
          .emptyLine,
          .line "[bold cyan]Built-ins[/bold cyan]", .table summary.builtinTable] =
            ⟨report, none⟩ := by
  obtain ⟨abi, summary, summarizes, reported⟩ := exists_report_of_accepted asked accepted
  refine ⟨abi, summary, summarizes, ?_⟩
  dsimp only
  cases json with
  | true => exact ⟨_, Json.keepsLast_assignAll _, reported⟩
  | false => exact reported

/-- The command line that asks for the summary of the standard input in JSON. -/
def describing : List String := ["info", "-i", "-", "--json"]

/-- `describing` asks for a summary in JSON. -/
theorem asksSummary_describing : AsksSummary describing true := ⟨_, rfl, rfl, rfl⟩

/-- What the run of `describing` with a text as its input leaves behind. -/
def describingRun (text : String) : Outcome :=
  (runCommandLine quietHost ⟨[], "", []⟩ (Text.Utf8.encode text) describing).1

/-- `describing` prints the summary of the ABI in a text. -/
theorem describingRun_of_summarizes {text : String} {abi : Abi} {summary : Summary}
    (summarizes :
      Summarizes quietHost ⟨[], "", []⟩ (Text.Utf8.encode text) describing abi summary) :
    (describingRun text).exitCode = 0 ∧ (describingRun text).stdout = summary.jsonReport := by
  obtain ⟨log, ran⟩ := runCommandLine_of_summarizes asksSummary_describing summarizes
  rw [if_pos rfl] at ran
  rw [describingRun, ran]
  exact ⟨rfl, rfl⟩

/-- A text with an ABI that declares an alias and a struct of one name. -/
def repeatedName : String :=
  "\x7b\"types\": [\x7b\"new_type_name\": \"row\", \"type\": \"name\"\x7d], " ++
    "\"structs\": [\x7b\"name\": \"row\", \"base\": \"\", \"fields\": []\x7d]\x7d"

/-- The ABI in `repeatedName`. -/
def repeatedAbi : Abi where
  aliases := some [some ⟨some "row", some "name"⟩]
  structs := some [some ⟨some "row", some "", some []⟩]

/-- The summary of `repeatedAbi`. -/
def repeatedSummary : Summary where
  version := some ""
  items := [⟨some "row", some "Row", .type, some "name"⟩,
    ⟨some "row", some "Row", .struct, some ""⟩]
  builtins := .singleton .name
  lineCount := 3

/-- `repeatedName` has the summary. -/
theorem summarizes_repeatedName :
    Summarizes quietHost ⟨[], "", []⟩ (Text.Utf8.encode repeatedName) describing repeatedAbi
      repeatedSummary := by
  have loaded : quietHost.load .standard (Text.Utf8.encode repeatedName) = .ok repeatedAbi := by
    rw [Host.load_encode]
    decide +kernel
  exact ⟨_, _, _, rfl, rfl, rfl, rfl, loaded, rfl⟩

/-- In JSON `repeatedName` has one name, and not an entry for each declaration. -/
theorem info_declarations_repeatedName :
    AsksSummary describing true ∧ (describingRun repeatedName).exitCode = 0 ∧
      ∃ entries, Json.KeepsLast entries
          (repeatedSummary.items.map fun item => (item.name, item.entry)) ∧
        entries.map Prod.fst = [some "row"] ∧ entries.length ≠ repeatedSummary.items.length := by
  obtain ⟨accepted, -⟩ := describingRun_of_summarizes summarizes_repeatedName
  obtain ⟨abi, summary, summarizes, reported⟩ :=
    info_declarations asksSummary_describing accepted
  obtain ⟨-, rfl⟩ := summarizes.unique summarizes_repeatedName
  obtain ⟨entries, kept, -⟩ := reported
  have names : entries.map Prod.fst = [some "row"] := kept.names
  refine ⟨asksSummary_describing, accepted, entries, kept, names, fun same => ?_⟩
  exact absurd (kept.length.mp same) (by decide)

/-- Of the two declarations of `repeatedName`, the alias is lost in JSON. -/
theorem info_declarations_lost :
    AsksSummary describing true ∧
      Summarizes quietHost ⟨[], "", []⟩ (Text.Utf8.encode repeatedName) describing repeatedAbi
        repeatedSummary ∧
      repeatedSummary.items.map (fun item => (item.name, item.kind)) =
        [(some "row", .type), (some "row", .struct)] ∧
      (describingRun repeatedName).exitCode = 0 ∧
      (describingRun repeatedName).stdout =
        Json.pretty (.object [
          ("version", .text ""),
          ("declarations", .object [("row", .object [("name", .text "Row"),
            ("kind", .text "struct"), ("detail", .text "")])]),
          ("builtins", .object [("name", .text "string")]),
          ("lines", .integer 3)]) ++ "\n" := by
  obtain ⟨accepted, printed⟩ := describingRun_of_summarizes summarizes_repeatedName
  exact ⟨asksSummary_describing, summarizes_repeatedName, rfl, accepted, printed⟩

end AbiTypings
