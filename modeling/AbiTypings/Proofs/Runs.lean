import AbiTypings.Proofs.Generation
import AbiTypings.Proofs.Writing

/-!
# Files after a run

A run touches files in its last step only, and only if its command line asks for typings at a path
and the ABI in its input was rendered. So a run that succeeds has written at most the file at the
output path, which then holds the bytes of the rendering of the input as it was before, be it the
same file. A run that fails leaves all files as they were, but for one case: a rendering with half
of a surrogate pair in it has no bytes, which is found out when the file at the output path has been
opened and nothing is left in it.
-/

namespace AbiTypings

/-- A text is what a job asks for of bytes: the rendering of the ABI in them, with the options and
in the mode that the job names. -/
def Job.Renders (job : Job) (host : Host) (bytes : List UInt8) (text : String) : Prop :=
  ∃ options, job.options? = some options ∧
    host.render job.source bytes options (job.arguments.has .strict) = .ok text

/-- A command line asks for typings in the file at a path. -/
def AsksFile (commandLine : List String) (path : String) : Prop :=
  ∃ job, Job.ofCommandLine commandLine = .ok job ∧ job.command = .gen ∧
    job.destination = .file path

/-- A command line asks for typings in one file only. -/
theorem AsksFile.unique {commandLine : List String} {path other : String}
    (asked : AsksFile commandLine path) (otherAsked : AsksFile commandLine other) :
    path = other := by
  obtain ⟨job, read, -, destination⟩ := asked
  obtain ⟨otherJob, otherRead, -, otherDestination⟩ := otherAsked
  obtain rfl := Except.ok.inj (read.symm.trans otherRead)
  exact Endpoint.file.inj (destination.symm.trans otherDestination)

/-- A command line asks for typings in the file at a path, and the input is rendered to a text. -/
def Generates (host : Host) (directory : Directory) (stdin : List UInt8)
    (commandLine : List String) (path text : String) : Prop :=
  ∃ job bytes, Job.ofCommandLine commandLine = .ok job ∧ job.command = .gen ∧
    job.destination = .file path ∧ job.arguments.operands = [] ∧
    job.input directory stdin = .ok bytes ∧ job.Renders host bytes text

/-- A command line asks for typings in a file at a place, and the input is rendered to a text that
has no bytes. -/
def FailsToEncode (host : Host) (directory : Directory) (stdin : List UInt8)
    (commandLine : List String) (place : Place) (fault : Text.Utf8.EncodeFault) : Prop :=
  ∃ path text, Generates host directory stdin commandLine path text ∧
    Text.Utf8.encodeText text = .error fault ∧ directory.target path = .ok place ∧
    ∀ device, directory.node place ≠ .device device

section Runs

variable {host : Host} {directory : Directory} {stdin : List UInt8} {commandLine : List String}
  {path text : String}

/-- A command line that generates typings asks for them in a file. -/
theorem Generates.asksFile (generates : Generates host directory stdin commandLine path text) :
    AsksFile commandLine path := by
  obtain ⟨job, -, read, command, destination, -⟩ := generates
  exact ⟨job, read, command, destination⟩

/-- A command line that generates typings has them delivered. -/
theorem Generates.run (generates : Generates host directory stdin commandLine path text) :
    ∃ log, runCommandLine host directory stdin commandLine = directory.deliver path text log := by
  obtain ⟨job, bytes, read, command, destination, plain, given, options, asked, rendered⟩ :=
    generates
  have performed := Job.perform_of_asked host bytes asked plain
  simp only [command, Job.generate_eq asked, rendered, Job.deliver, destination] at performed
  refine ⟨job.log (host.reported job.source bytes options.style (job.arguments.has .strict)), ?_⟩
  simp only [runCommandLine, read, given, performed]

/-- A job that is performed has a text written only at the output path of a command for typings, and
then it is the rendering of its input. The job is over with the exit code zero only if no output
path is asked for. -/
theorem Job.perform_outcome (job : Job) (host : Host) (input : Except OpenFault (List UInt8)) :
    (∃ outcome, job.perform host input = .finished outcome ∧
      (outcome.exitCode = 0 → job.command = .gen → job.destination = .standard)) ∨
    ∃ path text log bytes, job.perform host input = .write path text log ∧ job.command = .gen ∧
      job.destination = .file path ∧ job.arguments.operands = [] ∧ input = .ok bytes ∧
      job.Renders host bytes text := by
  rcases job.perform_cases host input with
    ⟨outcome, finished, failed⟩ | ⟨bytes, options, rfl, plain, asked⟩
  · exact .inl ⟨outcome, finished, fun succeeded => absurd succeeded failed⟩
  have performed := perform_of_asked host bytes asked plain
  cases command : job.command with
  | info =>
    rw [command] at performed
    exact .inl ⟨_, performed, by simp⟩
  | gen =>
    simp only [command, generate_eq asked] at performed
    cases rendered : host.render job.source bytes options (job.arguments.has .strict) with
    | error fault =>
      rw [rendered] at performed
      exact .inl ⟨_, performed, by simp⟩
    | ok text =>
      simp only [rendered, deliver] at performed
      cases destination : job.destination with
      | standard =>
        rw [destination] at performed
        exact .inl ⟨_, performed, fun _ _ => rfl⟩
      | file path =>
        rw [destination] at performed
        exact .inr ⟨path, text, _, bytes, performed, rfl, rfl, plain, rfl, options, asked, rendered⟩

/-- A run leaves the directory as it was, unless it delivers the rendering of its input. -/
theorem runCommandLine_cases (host : Host) (directory : Directory) (stdin : List UInt8)
    (commandLine : List String) :
    (∃ outcome, runCommandLine host directory stdin commandLine = (outcome, directory) ∧
      (outcome.exitCode = 0 → ∀ path, ¬ AsksFile commandLine path)) ∨
    ∃ path text log, Generates host directory stdin commandLine path text ∧
      runCommandLine host directory stdin commandLine = directory.deliver path text log := by
  unfold runCommandLine
  cases read : Job.ofCommandLine commandLine with
  | error outcome =>
    refine .inl ⟨outcome, rfl, ?_⟩
    rintro - path ⟨job, found, -⟩
    exact absurd (read.symm.trans found) (by simp)
  | ok job =>
    rcases job.perform_outcome host (job.input directory stdin) with
      ⟨outcome, finished, standard⟩ |
        ⟨path, text, log, bytes, performed, command, destination, plain, given, renders⟩
    · refine .inl ⟨outcome, by simp only [finished], ?_⟩
      rintro succeeded path ⟨other, found, command, destination⟩
      obtain rfl := Except.ok.inj (read.symm.trans found)
      exact absurd ((standard succeeded command).symm.trans destination) (by simp)
    · exact .inr ⟨path, text, log, ⟨job, bytes, read, command, destination, plain, given, renders⟩,
        by simp only [performed]⟩

end Runs

/-! ## Deliveries -/

/-- The outcome of a file that cannot be written does not have the exit code zero. -/
theorem Outcome.exitCode_unwritten (path log : String) (fault : OpenFault) :
    (unwritten path log fault).exitCode = 1 := by
  cases fault <;> simp [unwritten, failed]

namespace Directory

variable {directory : Directory} {path text : String}

/-- A text that has no bytes leaves nothing in the file at the path. -/
theorem deliver_of_unencodable {fault : Text.Utf8.EncodeFault} {place : Place}
    (unencodable : Text.Utf8.encodeText text = .error fault)
    (found : directory.target path = .ok place)
    (noDevice : ∀ device, directory.node place ≠ .device device) (log : String) :
    directory.deliver path text log =
      (.ofFault log (.unencodable fault), directory.withFile place.path []) := by
  have opened := truncate_eq_ok_iff.mpr ⟨place, found, .inr ⟨noDevice, rfl⟩⟩
  simp only [deliver, unencodable, opened]

/-- A delivery leaves the directory as it was, or writes the bytes of the text, or leaves nothing in
the file for a text that has no bytes. -/
theorem deliver_cases (directory : Directory) (path text log : String) :
    (∃ outcome, directory.deliver path text log = (outcome, directory) ∧ outcome.exitCode ≠ 0) ∨
    (∃ bytes outcome changed, Text.Utf8.encodeText text = .ok bytes ∧
      directory.write path bytes = .ok changed ∧ outcome.exitCode = 0 ∧
      directory.deliver path text log = (outcome, changed)) ∨
    ∃ fault place, Text.Utf8.encodeText text = .error fault ∧
      directory.target path = .ok place ∧ (∀ device, directory.node place ≠ .device device) ∧
      directory.deliver path text log =
        (.ofFault log (.unencodable fault), directory.withFile place.path []) := by
  cases encoded : Text.Utf8.encodeText text with
  | ok bytes =>
    simp only [deliver, encoded]
    cases written : directory.write path bytes with
    | error fault => exact .inl ⟨_, rfl, by simp [Outcome.exitCode_unwritten]⟩
    | ok changed => exact .inr (.inl ⟨bytes, _, changed, rfl, written, rfl, rfl⟩)
  | error fault =>
    cases opened : directory.truncate path with
    | error refusal =>
      simp only [deliver, encoded, opened]
      exact .inl ⟨_, rfl, by simp [Outcome.exitCode_unwritten]⟩
    | ok changed =>
      obtain ⟨place, found, ⟨-, rfl⟩ | ⟨noDevice, -⟩⟩ := truncate_eq_ok_iff.mp opened
      · simp only [deliver, encoded, opened]
        exact .inl ⟨_, rfl, by simp⟩
      · exact .inr (.inr ⟨fault, place, rfl, found, noDevice,
          deliver_of_unencodable encoded found noDevice log⟩)

end Directory

/-! ## Files -/

/-- What a run leaves of the files.

If the typings for a file are rendered to a text that has no bytes, the run ends with the exit code
one and a fault that the program does not announce, and nothing is left in the file. Any other run
with an exit code other than zero leaves all files as they were.

A file that a run creates or changes is the one at the output path of a command for typings. After a
run of such a command with the exit code zero, the file there holds the bytes of the text that the
input was rendered to, as it was before the run, and is read back at the path. A device is no file:
if the path leads to one that discards what is written, no file is touched. -/
theorem runCommandLine_files (host : Host) (directory : Directory) (stdin : List UInt8)
    (commandLine : List String) :
    let (outcome, after) := runCommandLine host directory stdin commandLine
    (∀ place fault, FailsToEncode host directory stdin commandLine place fault →
        outcome.exitCode = 1 ∧ outcome.unannounced = some (.unencodable fault) ∧
          after = directory.withFile place.path []) ∧
      ((∀ place fault, ¬ FailsToEncode host directory stdin commandLine place fault) →
        outcome.exitCode ≠ 0 → after = directory) ∧
      (∀ name, after.files.lookup name ≠ directory.files.lookup name →
        ∃ path place, AsksFile commandLine path ∧ directory.target path = .ok place ∧
          name = place.path) ∧
      (outcome.exitCode = 0 → ∀ path, AsksFile commandLine path →
        ∃ text bytes place, Generates host directory stdin commandLine path text ∧
          Text.Utf8.encodeText text = .ok bytes ∧ directory.target path = .ok place ∧
            (directory.node place = .device .sink ∧ after = directory ∨
              after.files.lookup place.path = some bytes ∧ after.read path = .ok bytes)) := by
  cases ran : runCommandLine host directory stdin commandLine with
  | mk outcome after
  refine ⟨fun place fault fails => ?_, ?_⟩
  · obtain ⟨path, text, generates, unencodable, found, noDevice⟩ := fails
    obtain ⟨log, delivered⟩ := generates.run
    rw [Directory.deliver_of_unencodable unencodable found noDevice, ran] at delivered
    obtain ⟨rfl, rfl⟩ := Prod.mk.inj delivered
    exact ⟨rfl, rfl, rfl⟩
  rcases runCommandLine_cases host directory stdin commandLine with
    ⟨_, same, unasked⟩ | ⟨path, text, log, generates, delivered⟩
  · obtain ⟨rfl, rfl⟩ := Prod.mk.inj (ran.symm.trans same)
    exact ⟨fun _ _ => rfl, fun name differs => absurd rfl differs,
      fun succeeded path asked => absurd asked (unasked succeeded path)⟩
  rw [ran] at delivered
  rcases directory.deliver_cases path text log with
    ⟨_, same, failed⟩ | ⟨bytes, _, _, encoded, written, succeeded, same⟩ |
      ⟨fault, place, unencodable, found, noDevice, same⟩
  · obtain ⟨rfl, rfl⟩ := Prod.mk.inj (delivered.trans same)
    exact ⟨fun _ _ => rfl, fun name differs => absurd rfl differs,
      fun succeeded => absurd succeeded failed⟩
  · obtain ⟨rfl, rfl⟩ := Prod.mk.inj (delivered.trans same)
    obtain ⟨place, found, others, left⟩ := Directory.files_of_write written
    refine ⟨fun _ failed => absurd succeeded failed, fun name differs => ?_,
      fun _ other asked => ?_⟩
    · exact ⟨path, place, generates.asksFile, found,
        by_contra fun apart => differs (others name apart)⟩
    · obtain rfl := asked.unique generates.asksFile
      exact ⟨text, bytes, place, generates, encoded, found, left⟩
  · obtain ⟨rfl, rfl⟩ := Prod.mk.inj (delivered.trans same)
    refine ⟨fun none => ?_, fun name differs => ?_, fun succeeded => ?_⟩
    · exact absurd ⟨path, text, generates, unencodable, found, noDevice⟩ (none place fault)
    · refine ⟨path, place, generates.asksFile, found, by_contra fun apart => differs ?_⟩
      exact Directory.lookup_put_of_ne apart [] directory.files
    · exact absurd succeeded (by simp)

/-- A host that reads its standard input as it reads files. Its console shows nothing, as it is not
asked to. -/
def quietHost : Host := ⟨fun _ => ⟨"", none⟩, true⟩

/-- A directory with one file, an ABI in which nothing is declared. -/
def oneAbi : Directory := { files := [("abi", Text.Utf8.encode "\x7b\x7d")] }

/-- A text with an ABI whose version is half of a surrogate pair. -/
def halfVersion : String := "\x7b\"version\": \"\\ud800\"\x7d"

/-- A directory with one file, the ABI in `halfVersion`. -/
def halfAbi : Directory := { files := [("abi", Text.Utf8.encode halfVersion)] }

/-- The command line that replaces the ABI by its typings, in a style. -/
def replacing (style : String) : List String := ["gen", "-i", "abi", "-o", "abi", "-f", style]

/-- The half in the version of `halfAbi`, behind the words in front of the version. -/
def halfInBanner : Text.Utf8.EncodeFault := ⟨31, 1, 0⟩

/-- The ABI of `oneAbi` is replaced by its typings, but stays as it is when the style is unknown. Of
the ABI of `halfAbi` nothing is left. -/
theorem runCommandLine_files_oneAbi :
    (runCommandLine quietHost oneAbi [] (replacing "camel")).1.exitCode = 0 ∧
      AsksFile (replacing "camel") "abi" ∧
      (∃ text bytes, Generates quietHost oneAbi [] (replacing "camel") "abi" text ∧
        Text.Utf8.encodeText text = .ok bytes ∧
        (runCommandLine quietHost oneAbi [] (replacing "camel")).2.read "abi" = .ok bytes) ∧
      (runCommandLine quietHost oneAbi [] (replacing "camel")).2.files.lookup "abi" ≠
        oneAbi.files.lookup "abi" ∧
      (∃ path place, AsksFile (replacing "camel") path ∧ oneAbi.target path = .ok place ∧
        "abi" = place.path) ∧
      (∀ place fault, ¬ FailsToEncode quietHost oneAbi [] (replacing "snake") place fault) ∧
      (runCommandLine quietHost oneAbi [] (replacing "snake")).1.exitCode ≠ 0 ∧
      (runCommandLine quietHost oneAbi [] (replacing "snake")).2 = oneAbi ∧
      FailsToEncode quietHost halfAbi [] (replacing "camel") (.inside ["abi"]) halfInBanner ∧
      (runCommandLine quietHost halfAbi [] (replacing "camel")).1.unannounced =
        some (.unencodable halfInBanner) ∧
      (runCommandLine quietHost halfAbi [] (replacing "camel")).2 = halfAbi.withFile "abi" [] := by
  have succeeded : (runCommandLine quietHost oneAbi [] (replacing "camel")).1.exitCode = 0 := by
    decide +kernel
  have asked : AsksFile (replacing "camel") "abi" := ⟨_, rfl, rfl, by decide +kernel⟩
  have reached : oneAbi.target "abi" = .ok (.inside ["abi"]) := by decide +kernel
  have differs : (runCommandLine quietHost oneAbi [] (replacing "camel")).2.files.lookup "abi" ≠
      oneAbi.files.lookup "abi" := by decide +kernel
  have failed : (runCommandLine quietHost oneAbi [] (replacing "snake")).1.exitCode ≠ 0 := by
    decide +kernel
  have styleless (place : Place) (fault : Text.Utf8.EncodeFault) :
      ¬ FailsToEncode quietHost oneAbi [] (replacing "snake") place fault := by
    rintro ⟨_, _, ⟨job, _, read, -, -, -, -, _, named, -⟩, -⟩
    obtain rfl := Except.ok.inj read
    contradiction
  have fails :
      FailsToEncode quietHost halfAbi [] (replacing "camel") (.inside ["abi"]) halfInBanner := by
    refine ⟨"abi", _, ⟨_, _, rfl, rfl, by decide +kernel, rfl, rfl, _, rfl, rfl⟩, by rfl,
      by decide +kernel, fun device => ?_⟩
    have held : halfAbi.node (.inside ["abi"]) = .file (Text.Utf8.encode halfVersion) := by
      decide +kernel
    simp [held]
  obtain ⟨-, -, named, replaced⟩ := runCommandLine_files quietHost oneAbi [] (replacing "camel")
  obtain ⟨-, kept, -⟩ := runCommandLine_files quietHost oneAbi [] (replacing "snake")
  obtain ⟨emptied, -⟩ := runCommandLine_files quietHost halfAbi [] (replacing "camel")
  obtain ⟨-, unannounced, left⟩ := emptied _ _ fails
  obtain ⟨text, bytes, place, generates, encoded, found, written⟩ := replaced succeeded "abi" asked
  have read : (runCommandLine quietHost oneAbi [] (replacing "camel")).2.read "abi" =
      .ok bytes := by
    obtain rfl := Except.ok.inj (reached.symm.trans found)
    rcases written with ⟨device, -⟩ | ⟨-, read⟩
    · exact absurd device (by decide +kernel)
    · exact read
  exact ⟨succeeded, asked, ⟨text, bytes, generates, encoded, read⟩, differs, named "abi" differs,
    styleless, failed, kept styleless failed, fails, unannounced, left⟩

/-- A run that fails has created an empty file, or left nothing in the file of its input. -/
theorem runCommandLine_files_emptied :
    (runCommandLine quietHost halfAbi [] ["gen", "-i", "abi", "-o", "new"]).1.exitCode ≠ 0 ∧
      halfAbi.files.lookup "new" = none ∧
      (runCommandLine quietHost halfAbi [] ["gen", "-i", "abi", "-o", "new"]).2.files.lookup "new" =
        some [] ∧
      (runCommandLine quietHost halfAbi [] (replacing "camel")).1.exitCode ≠ 0 ∧
      halfAbi.files.lookup "abi" ≠ some [] ∧
      (runCommandLine quietHost halfAbi [] (replacing "camel")).2.files.lookup "abi" = some [] := by
  decide +kernel

end AbiTypings
