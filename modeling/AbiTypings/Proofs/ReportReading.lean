import AbiTypings.Proofs.PrintedValues
import AbiTypings.Proofs.Reports
import AbiTypings.Proofs.WholeSummaries
import Mathlib.Data.List.Nodup

/-!
# Reading a report

The JSON report of a summary in which every declaration has a name is read back, by the reader that
reads ABIs, as the object that was printed: with the version, the last declaration of each name, the
built-ins in the order of the registry and the number of lines. The texts in it may have any
characters. The version, the names and the details come from an ABI that was read, so they are read
back unchanged. In an identifier two halves of a surrogate pair can have come side by side, and they
are read back as one character. Only a number of lines with more digits than the reader takes would
be refused.
-/

namespace AbiTypings

namespace Json

/-- A text or null is read back. -/
theorem isReadable_ofText (text : Option String) : (ofText text).IsReadable := by
  cases text with
  | none => exact .null
  | some value => exact .text value

/-- The halves are joined in a text, or it is null. -/
theorem rejoined_ofText (text : Option String) :
    (ofText text).rejoined = ofText (text.map Text.joined) := by
  cases text <;> rfl

/-- In a whole text or null nothing is joined. -/
theorem rejoined_ofText_of_whole {text : Option String} (whole : HoldsWhole text) :
    (ofText text).rejoined = ofText text := by
  cases text with
  | none => rfl
  | some value => exact congrArg Json.text (whole value rfl)

/-- In an object whose names are whole and different, the halves are joined in the values. -/
theorem rejoined_object {members : Members}
    (whole : ∀ name ∈ members.map Prod.fst, Text.IsWhole name)
    (distinct : (members.map Prod.fst).Nodup) :
    (object members).rejoined = .object (members.map (Prod.map id rejoined)) := by
  have each : rejoinedMembers members = members.map (Prod.map id rejoined) := by
    clear distinct
    induction members with
    | nil => rfl
    | cons member later ih =>
      rw [List.map_cons, List.forall_mem_cons] at whole
      have kept : Text.joined member.1 = member.1 := whole.1
      rw [rejoinedMembers, ih whole.2, kept]
      rfl
  have names : (members.map (Prod.map id rejoined)).map Prod.fst = members.map Prod.fst := by
    rw [List.map_map]
    rfl
  rw [rejoined, each, assignAll_of_nodup (names ▸ distinct)]

end Json

namespace SummaryItem

/-- An item with the halves in its identifier joined. -/
def rejoined (item : SummaryItem) : SummaryItem :=
  { item with identifier := item.identifier.map Text.joined }

/-- What is said of a declaration can be read. -/
theorem isReadable_entry (item : SummaryItem) : item.entry.IsReadable := by
  refine .object fun member inside => ?_
  simp only [List.mem_cons, List.not_mem_nil, or_false] at inside
  rcases inside with rfl | rfl | rfl
  · exact Json.isReadable_ofText _
  · exact .text _
  · exact Json.isReadable_ofText _

/-- What is said of a declaration is read back, with the halves in the identifier joined. -/
theorem rejoined_entry {item : SummaryItem} (whole : item.HasWholeTexts) :
    item.entry.rejoined = item.rejoined.entry := by
  have names : ∀ name ∈ ["name", "kind", "detail"], Text.IsWhole name := by decide
  have distinct : ["name", "kind", "detail"].Nodup := by decide
  have word : Text.joined item.kind.word = item.kind.word := by cases item.kind <;> rfl
  refine Eq.trans (Json.rejoined_object names distinct) ?_
  simp only [List.map_cons, List.map_nil, Prod.map_apply, id_eq, Json.rejoined_ofText,
    Json.rejoined_ofText_of_whole whole.detail]
  rw [Json.rejoined, word]
  rfl

end SummaryItem

namespace Summary

/-- The declarations that have a name, by their names. -/
def namedEntries (summary : Summary) : Members :=
  summary.items.filterMap fun item => item.name.map (·, item.entry)

/-- The declarations that have a name, by their names, with the halves in the identifiers joined. -/
def rejoinedEntries (summary : Summary) : Members :=
  summary.items.filterMap fun item => item.name.map (·, item.rejoined.entry)

variable {summary : Summary}

/-- If every declaration has a name, the report keeps the last declaration of each name. -/
theorem declarationMembers_eq (named : ∀ item ∈ summary.items, item.name ≠ none) :
    summary.declarationMembers = Json.assignAll summary.namedEntries := by
  have given : summary.items.map (fun item => (item.name, item.toJson)) =
      summary.namedEntries.map (Prod.map some id) := by
    rw [namedEntries, List.map_filterMap]
    generalize summary.items = items at named
    induction items with
    | nil => rfl
    | cons item rest ih =>
      have later := ih fun other member => named other (List.mem_cons_of_mem _ member)
      obtain ⟨name, found⟩ := Option.ne_none_iff_exists'.mp (named item List.mem_cons_self)
      rw [List.map_cons, List.filterMap_cons, later, found]
      rfl
  rw [declarationMembers, given, Json.assignAll_map fun _ _ => Option.some.inj, List.map_map]
  exact List.map_id _

/-- The declarations of a report can be read. -/
theorem isReadable_namedEntries :
    (Json.object (Json.assignAll summary.namedEntries)).IsReadable := by
  refine .object fun member inside => ?_
  obtain ⟨item, -, found⟩ := List.mem_filterMap.mp (Json.mem_of_mem_assignAll inside)
  obtain ⟨name, -, rfl⟩ := Option.map_eq_some_iff.mp found
  exact item.isReadable_entry

/-- The declarations of a report are read back, with the halves in their identifiers joined. -/
theorem rejoined_namedEntries (whole : summary.HasWholeTexts) :
    (Json.object (Json.assignAll summary.namedEntries)).rejoined =
      .object (Json.assignAll summary.rejoinedEntries) := by
  have names : ∀ name ∈ (Json.assignAll summary.namedEntries).map Prod.fst, Text.IsWhole name := by
    intro _ member
    obtain ⟨_, inside, rfl⟩ := List.mem_map.mp member
    obtain ⟨item, listed, found⟩ := List.mem_filterMap.mp (Json.mem_of_mem_assignAll inside)
    obtain ⟨name, named, rfl⟩ := Option.map_eq_some_iff.mp found
    exact (whole.items item listed).name name named
  have entries :
      summary.namedEntries.map (Prod.map id Json.rejoined) = summary.rejoinedEntries := by
    rw [namedEntries, rejoinedEntries, List.map_filterMap]
    refine List.filterMap_congr fun item listed => ?_
    rw [Option.map_map, ← SummaryItem.rejoined_entry (whole.items item listed)]
    rfl
  rw [Json.rejoined_object names (Json.nodup_map_fst_assignAll _), ← entries,
    Json.assignAll_map Function.injective_id]

/-- The built-ins of a report can be read. -/
theorem isReadable_builtinMembers : (Json.object summary.builtinMembers).IsReadable := by
  refine .object fun member inside => ?_
  obtain ⟨builtin, -, rfl⟩ := List.mem_map.mp inside
  exact .text builtin.target

/-- The built-ins of a report are read back. -/
theorem rejoined_builtinMembers :
    (Json.object summary.builtinMembers).rejoined = .object summary.builtinMembers := by
  have spellings (builtin : Builtin) : Text.IsWhole builtin.spelling := by cases builtin <;> rfl
  have targets (builtin : Builtin) : Text.joined builtin.target = builtin.target := by
    cases builtin <;> rfl
  have listed : summary.builtinMembers.map Prod.fst =
      summary.builtins.toList.map Builtin.spelling := by
    rw [builtinMembers, List.map_map]
    rfl
  have names : ∀ name ∈ summary.builtinMembers.map Prod.fst, Text.IsWhole name := by
    intro _ member
    rw [listed] at member
    obtain ⟨builtin, -, rfl⟩ := List.mem_map.mp member
    exact spellings builtin
  have distinct : (summary.builtinMembers.map Prod.fst).Nodup := by
    rw [listed]
    exact summary.builtins.toList_nodup.map fun _ _ => Builtin.spelling_injective
  rw [Json.rejoined_object names distinct, builtinMembers, List.map_map]
  refine congrArg Json.object (List.map_congr_left fun builtin _ => ?_)
  rw [Function.comp_apply, Prod.map_apply, Json.rejoined, targets]
  rfl

/-- The parts of a report in front of the number of lines. -/
def leadingMembers (summary : Summary) : Members := [
  ("version", .ofText summary.version),
  ("declarations", .object (Json.assignAll summary.namedEntries)),
  ("builtins", .object summary.builtinMembers)]

/-- The parts of a report in front of the number of lines can be read. -/
theorem isReadable_leadingMembers : ∀ member ∈ summary.leadingMembers, member.2.IsReadable := by
  intro member inside
  simp only [leadingMembers, List.mem_cons, List.not_mem_nil, or_false] at inside
  rcases inside with rfl | rfl | rfl
  · exact Json.isReadable_ofText _
  · exact isReadable_namedEntries
  · exact isReadable_builtinMembers

/-- A report is read back with the halves in its identifiers joined. -/
theorem rejoined_members (whole : summary.HasWholeTexts) (lines : Int) :
    (Json.object (summary.leadingMembers ++ [("lines", .integer lines)])).rejoined =
      .object [
        ("version", .ofText summary.version),
        ("declarations", .object (Json.assignAll summary.rejoinedEntries)),
        ("builtins", .object summary.builtinMembers),
        ("lines", .integer lines)] := by
  have keys : ∀ name ∈ ["version", "declarations", "builtins", "lines"], Text.IsWhole name := by
    decide
  have distinct : ["version", "declarations", "builtins", "lines"].Nodup := by decide
  refine Eq.trans (Json.rejoined_object keys distinct) ?_
  simp only [leadingMembers, List.cons_append, List.nil_append, List.map_cons, List.map_nil,
    Prod.map_apply, id_eq, rejoined_builtinMembers, rejoined_namedEntries whole,
    Json.rejoined_ofText_of_whole whole.version]
  rfl

/-- The report of a summary whose version, names and details are whole and in which every
declaration has a name is read back with the halves in the identifiers joined, unless the number of
lines has too many digits. -/
theorem read_jsonReport (whole : summary.HasWholeTexts)
    (named : ∀ item ∈ summary.items, item.name ≠ none) :
    Json.read summary.jsonReport.toList =
      if Json.digitLimit < (Nat.toDigits 10 summary.lineCount).length then
        .error (.longInteger (Nat.toDigits 10 summary.lineCount).length)
      else
        .ok (.object [
          ("version", .ofText summary.version),
          ("declarations", .object (Json.assignAll summary.rejoinedEntries)),
          ("builtins", .object summary.builtinMembers),
          ("lines", .integer summary.lineCount)]) := by
  have printed : summary.toJson =
      .object (summary.leadingMembers ++ [("lines", .integer summary.lineCount)]) := by
    rw [toJson, declarationMembers_eq named]
    rfl
  rw [jsonReport, printed]
  split
  · rename_i long
    exact Json.read_pretty_of_long _ _ summary.isReadable_leadingMembers "lines" long
  · rename_i short
    have readable : (Json.object
        (summary.leadingMembers ++ [("lines", .integer summary.lineCount)])).IsReadable := by
      refine .object (List.forall_mem_append.mpr ⟨summary.isReadable_leadingMembers, ?_⟩)
      rw [List.forall_mem_singleton]
      exact .integer (Nat.not_lt.mp short)
    rw [Json.read_pretty readable, rejoined_members whole]

end Summary

/-- A summary of an ABI in the input of a run has whole texts. -/
theorem Summarizes.hasWholeTexts {host : Host} {directory : Directory} {stdin : List UInt8}
    {commandLine : List String} {abi : Abi} {summary : Summary}
    (summarizes : Summarizes host directory stdin commandLine abi summary) :
    summary.HasWholeTexts := by
  obtain ⟨_, _, _, -, -, -, -, loaded, summarized⟩ := summarizes
  exact Host.hasWholeTexts_of_summarize loaded summarized

/-- A run for a summary in JSON that ends with the exit code zero prints readable JSON, if every
declaration of the ABI has a name. The reader that reads ABIs returns an object with the version, of
the declarations the last one of each name, the built-ins that are used, in the order of the
registry, and the number of lines; it refuses the number of lines if that has too many digits. All
texts are read back unchanged but for an identifier in which the first half of a surrogate pair and
the second one have come side by side: they are read back as one character. -/
theorem info_json_reads_back {host : Host} {directory : Directory} {stdin : List UInt8}
    {commandLine : List String} (asked : AsksSummary commandLine true)
    (accepted : (runCommandLine host directory stdin commandLine).1.exitCode = 0) :
    ∃ abi summary, Summarizes host directory stdin commandLine abi summary ∧
      ((∀ item ∈ summary.items, item.name ≠ none) →
        ∃ declarations builtins,
          Json.KeepsLast declarations
            (summary.items.filterMap fun item => item.name.map (·, item.rejoined.entry)) ∧
          builtins = (Builtin.registry.filter summary.builtins.contains).map
            (fun builtin => (builtin.spelling, .text builtin.target)) ∧
          Abi.jsonOfText (runCommandLine host directory stdin commandLine).1.stdout.toList =
            if Json.digitLimit < (Nat.toDigits 10 summary.lineCount).length then
              .error (.longInteger (Nat.toDigits 10 summary.lineCount).length)
            else
              .ok (.object [
                ("version", .ofText summary.version),
                ("declarations", .object declarations),
                ("builtins", .object builtins),
                ("lines", .integer summary.lineCount)])) := by
  obtain ⟨abi, summary, summarizes, printed⟩ := exists_report_of_accepted asked accepted
  rw [if_pos rfl] at printed
  refine ⟨abi, summary, summarizes, fun named => ?_⟩
  refine ⟨_, _, Json.keepsLast_assignAll summary.rejoinedEntries, rfl, ?_⟩
  rw [printed, Abi.jsonOfText, Summary.read_jsonReport summarizes.hasWholeTexts named]
  split <;> rfl

/-- A text with an ABI that has a control character as its version and declares two types of one
name, which has a quote and a line feed, and another one outside of the basic plane. -/
def unusualNames : String :=
  "\x7b\"version\": \"\\u0000\", \"types\": [" ++
    "\x7b\"new_type_name\": \"a\\\"\\n\", \"type\": \"name\"\x7d, " ++
    "\x7b\"new_type_name\": \"\\ud83d\\ude00\", \"type\": \"int8\"\x7d], " ++
    "\"structs\": [\x7b\"name\": \"a\\\"\\n\", \"fields\": []\x7d]\x7d"

/-- The ABI in `unusualNames`. -/
def unusualAbi : Abi where
  version := some "\x00"
  aliases := some [some ⟨some "a\"\n", some "name"⟩, some ⟨some "😀", some "int8"⟩]
  structs := some [some ⟨some "a\"\n", some "", some []⟩]

/-- The summary of `unusualAbi`. -/
def unusualSummary : Summary where
  version := some "\x00"
  items := [⟨some "a\"\n", some "A\"\n", .type, some "name"⟩,
    ⟨some "😀", some "😀", .type, some "int8"⟩, ⟨some "a\"\n", some "A\"\n", .struct, some ""⟩]
  builtins := .ofList [.name, .int8]
  lineCount := 4

/-- The report for `unusualNames` is read back. -/
theorem info_json_reads_back_unusualNames :
    AsksSummary describing true ∧ (describingRun unusualNames).exitCode = 0 ∧
      ∃ declarations,
        Abi.jsonOfText (describingRun unusualNames).stdout.toList =
          .ok (.object [
            ("version", .text "\x00"),
            ("declarations", .object declarations),
            ("builtins", .object [("name", .text "string"), ("int8", .text "number")]),
            ("lines", .integer 4)]) ∧
        declarations.map Prod.fst = ["a\"\n", "😀"] ∧
        declarations.lookup "a\"\n" = some (.object
          [("name", .text "A\"\n"), ("kind", .text "struct"), ("detail", .text "")]) := by
  have loaded : quietHost.load .standard (Text.Utf8.encode unusualNames) = .ok unusualAbi := by
    rw [Host.load_encode]
    decide +kernel
  have summarized : unusualAbi.summarize .pascal = .ok unusualSummary := by rfl
  have summarizes : Summarizes quietHost ⟨[], "", []⟩ (Text.Utf8.encode unusualNames) describing
      unusualAbi unusualSummary := ⟨_, _, _, rfl, rfl, rfl, rfl, loaded, summarized⟩
  obtain ⟨accepted, -⟩ := describingRun_of_summarizes summarizes
  obtain ⟨abi, summary, found, readsBack⟩ := info_json_reads_back asksSummary_describing accepted
  obtain ⟨-, rfl⟩ := found.unique summarizes
  obtain ⟨declarations, builtins, kept, rfl, read⟩ := readsBack (by decide)
  exact ⟨asksSummary_describing, accepted, declarations, read, kept.names, kept.last _⟩

/-- A text with an ABI that declares a struct whose name has an underscore between the halves of a
surrogate pair. -/
def partedHalves : String :=
  "\x7b\"structs\": [\x7b\"name\": \"\\ud83d_\\ude00\", \"base\": \"\", \"fields\": []\x7d]\x7d"

/-- The name in `partedHalves`, of a first half, an underscore and a second half. -/
def partedName : String :=
  Text.ofPoints [.lone ⟨0x3d, by decide⟩, .char '_', .lone ⟨0x600, by decide⟩]

/-- The ABI in `partedHalves`. -/
def partedAbi : Abi where
  structs := some [some ⟨some partedName, some "", some []⟩]

/-- The summary of `partedAbi`, in which nothing stands between the halves. -/
def partedSummary : Summary where
  version := some ""
  items := [⟨some partedName,
    some (Text.ofPoints [.lone ⟨0x3d, by decide⟩, .lone ⟨0x600, by decide⟩]), .struct, some ""⟩]
  builtins := .ofList []
  lineCount := 2

/-- In the report for `partedHalves` the identifier is not read back as it stands in the summary. -/
theorem info_json_joins_halves :
    AsksSummary describing true ∧
      Summarizes quietHost ⟨[], "", []⟩ (Text.Utf8.encode partedHalves) describing partedAbi
        partedSummary ∧
      (∀ item ∈ partedSummary.items, item.name ≠ none) ∧
      (describingRun partedHalves).exitCode = 0 ∧
      Abi.jsonOfText (describingRun partedHalves).stdout.toList =
        .ok (.object [
          ("version", .text ""),
          ("declarations", .object [(partedName, .object [("name", .text "😀"),
            ("kind", .text "struct"), ("detail", .text "")])]),
          ("builtins", .object []),
          ("lines", .integer 2)]) ∧
      partedSummary.items.map SummaryItem.identifier ≠ [some "😀"] := by
  have loaded : quietHost.load .standard (Text.Utf8.encode partedHalves) = .ok partedAbi := by
    rw [Host.load_encode]
    decide +kernel
  have summarized : partedAbi.summarize .pascal = .ok partedSummary := by rfl
  have summarizes : Summarizes quietHost ⟨[], "", []⟩ (Text.Utf8.encode partedHalves) describing
      partedAbi partedSummary := ⟨_, _, _, rfl, rfl, rfl, rfl, loaded, summarized⟩
  obtain ⟨accepted, printed⟩ := describingRun_of_summarizes summarizes
  refine ⟨asksSummary_describing, summarizes, by decide, accepted, ?_, by decide⟩
  rw [printed, Abi.jsonOfText, Summary.read_jsonReport summarizes.hasWholeTexts (by decide)]
  rfl

end AbiTypings
