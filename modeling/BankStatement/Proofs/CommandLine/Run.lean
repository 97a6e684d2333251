import BankStatement.Proofs.Catalog.Reload
import BankStatement.Proofs.CommandLine.Places
import BankStatement.Proofs.Conversion.Atomicity
import BankStatement.Proofs.Conversion.Refinement

/-!
# Runs of the command in a directory

A run of the command in a directory is a chain of steps, each of which may end it.  Of the files it
changes at most one, the output, and that at two places: the output is made empty before the source
is read, and it is written at the end.  `Ends` lists the ways in which a run can end with what each
leaves of the files, and `ends_run` says that there are no others.

## Strategy

The command is written for any host.  `run_eq` and `convert_eq` say what it does in a directory
without the monad, and everything after them is about directories.  What a path leads to is asked
several times, of directories that differ in the standard input, in what was shown and logged, and
finally in the output; the lemmas on paths say that the answers stay the same (`lead_of_files`,
`lead_put`, `LeadsToOutput.put`).
-/

namespace BankStatement.Directory

variable {directory : Directory} {arguments : Arguments}

/-! ## Steps of the host -/

/-- Whether a source can be read. -/
def opened (directory : Directory) : Target → Except String Unit
  | .standard => .ok ()
  | .file path => directory.openPath path

/-- The directory with an output that is empty. -/
def created (directory : Directory) : Target → Except String Directory
  | .standard => .ok directory
  | .file path => directory.createPath path

/-- The directory with an output that was written. -/
def written (directory : Directory) (bytes : List UInt8) : Target → Except String Directory
  | .standard => .ok (directory.display bytes)
  | .file path => directory.writePath path bytes

theorem openSource_eq (target : Target) :
    host.openSource target directory = (directory.opened target, directory) := by
  cases target <;> rfl

theorem createOutput_eq (target : Target) :
    host.createOutput target directory =
      match directory.created target with
      | .ok next => (.ok (), next)
      | .error reason => (.error reason, directory) := by
  cases target <;> rfl

theorem writeOutput_eq (target : Target) (bytes : List UInt8) :
    host.writeOutput target bytes directory =
      match directory.written bytes target with
      | .ok next => (.ok (), next)
      | .error reason => (.error reason, directory) := by
  cases target <;> rfl

theorem readFile_eq (path : String) :
    host.readFile path directory = (directory.readPath path, directory.afterReading path) :=
  rfl

theorem log_eq (bytes : List UInt8) : host.log bytes directory = ((), directory.log bytes) :=
  rfl

/-- The conversion that the arguments ask for with a format. -/
def conversionOf (arguments : Arguments) (format : Format) : Conversion :=
  ⟨format, Command.payer arguments, Ofx.defaultAccountType⟩

section

variable [NationalDecoders]

theorem convert_eq (format : Format) :
    Command.convert host arguments format directory =
      match directory.opened arguments.sourceTarget with
      | .error reason => (.error (.openSource arguments.sourceTarget.toText reason), directory)
      | .ok _ =>
          match directory.created arguments.destinationTarget with
          | .error reason =>
              (.error (.createOutput arguments.destinationTarget.toText reason), directory)
          | .ok next =>
              let read := host.readSource arguments.sourceTarget next
              let outcome := (conversionOf arguments format).run read.1 .unlimited .unlimited
              let logged := read.2.log outcome.log.written
              match outcome.result with
              | .error e => (.error e, logged)
              | .ok _ =>
                  match logged.written outcome.output.written arguments.destinationTarget with
                  | .error reason => (.error (.write reason), logged)
                  | .ok final => (.ok (), final) := by
  unfold Command.convert
  simp only [bind, StateT.bind, openSource_eq]
  cases directory.opened arguments.sourceTarget with
  | error reason => rfl
  | ok _ =>
      simp only [bind, StateT.bind, createOutput_eq]
      cases directory.created arguments.destinationTarget with
      | error reason => rfl
      | ok next =>
          simp only [bind, StateT.bind]
          cases hread : host.readSource arguments.sourceTarget next with
          | mk source read =>
              simp only
              rw [← conversionOf]
              cases hresult :
                  ((conversionOf arguments format).run source .unlimited .unlimited).result with
              | error e => rfl
              | ok statement =>
                  simp only [log_eq, bind, StateT.bind, writeOutput_eq]
                  generalize written _ _ _ = result
                  cases result <;> rfl

theorem run_eq :
    Command.run host arguments directory =
      let started := directory.log (Command.parameters arguments)
      let loaded := started.afterReading arguments.configPath
      match Command.catalogOf arguments.configPath (started.readPath arguments.configPath) with
      | .error e => (.error (.catalog e), loaded)
      | .ok catalog =>
          if arguments.listFormats then
            (.ok (), loaded.display (catalog.names.flatMap Command.lineBytes))
          else
            match catalog.find arguments.formatName with
            | .error e => (.error (.catalog e), loaded)
            | .ok format => Command.convert host arguments format loaded := by
  unfold Command.run
  simp only [log_eq, bind, StateT.bind, readFile_eq]
  cases Command.catalogOf arguments.configPath
      ((directory.log (Command.parameters arguments)).readPath arguments.configPath) with
  | error e => rfl
  | ok catalog =>
      cases arguments.listFormats with
      | true => rfl
      | false =>
          cases hfind : catalog.find arguments.formatName with
          | error e => simp [hfind]; rfl
          | ok format => simp [hfind]

theorem runCommand_eq (texts : List String) :
    directory.runCommand texts =
      match Arguments.read texts with
      | .rejected =>
          (2, directory.log
            (Command.lineBytes "error: invalid arguments; for more information, try '--help'"))
      | .help => (0, directory.display (Command.help.flatMap Command.lineBytes))
      | .run arguments =>
          match Command.run host arguments directory with
          | (.ok _, after) => (0, after)
          | (.error e, after) => (1, after.log (Command.lineBytes ("Error: " ++ e.message))) := by
  unfold runCommand Command.perform
  cases Arguments.read texts with
  | rejected => rfl
  | help => rfl
  | run arguments =>
      simp only [bind, StateT.run, StateT.bind]
      cases Command.run host arguments directory with
      | mk result after => cases result <;> rfl

end

/-! ## What the steps change -/

theorem files_put_put (name : String) (first second : List UInt8) :
    ((directory.put name first).put name second).files = (directory.put name second).files := by
  simp [put]

theorem files_put_of_files {first second : Directory} (h : first.files = second.files)
    (name : String) (bytes : List UInt8) :
    (first.put name bytes).files = (second.put name bytes).files := by
  simp only [put, h]

theorem files_afterReading (path : String) :
    (directory.afterReading path).files = directory.files := by
  unfold afterReading
  split <;> rfl

theorem files_readSource (target : Target) :
    (host.readSource target directory).2.files = directory.files := by
  cases target with
  | standard => rfl
  | file path => exact files_afterReading path

theorem opened_of_files {first second : Directory} (h : first.files = second.files)
    (target : Target) : first.opened target = second.opened target := by
  cases target with
  | standard => rfl
  | file path => simp only [opened, openPath, lead_of_files h]

theorem readPath_log (bytes : List UInt8) (path : String) :
    (directory.log bytes).readPath path = directory.readPath path := by
  have hfiles : (directory.log bytes).files = directory.files := rfl
  unfold readPath
  rw [lead_of_files hfiles]
  rfl

/-- A path to a file delivers its content. -/
theorem readSource_of_lead {path name : String} (h : directory.lead path = .file name) :
    (host.readSource (.file path) directory).1 =
      .ofBytes RowReader.readLimit ((directory.content? name).getD []) [] := by
  show sourceOf (directory.readPath path) = _
  unfold readPath
  rw [h]
  rfl

/-- The target is a file of the name, or one that can be made. -/
def Clears (directory : Directory) (target : Target) (name : String) : Prop :=
  ∃ path, target = .file path ∧ directory.LeadsToOutput path name

theorem clears_of_files {first second : Directory} (h : first.files = second.files)
    (target : Target) (name : String) : first.Clears target name ↔ second.Clears target name := by
  simp only [Clears, LeadsToOutput, leadToOutput_of_files h]

theorem Clears.unique {target : Target} {name other : String} (h : directory.Clears target name)
    (hother : directory.Clears target other) : name = other := by
  obtain ⟨path, rfl, hlead⟩ := h
  obtain ⟨_, hpath, hotherLead⟩ := hother
  cases hpath
  rcases hlead with hlead | hlead <;> rcases hotherLead with hotherLead | hotherLead <;>
    cases hlead.symm.trans hotherLead <;> rfl

theorem created_of_clears {target : Target} {name : String} (h : directory.Clears target name) :
    directory.created target = .ok (directory.put name []) := by
  obtain ⟨path, rfl, hlead | hlead⟩ := h <;> simp only [created, createPath, hlead]

theorem created_of_not_clears {target : Target} (h : ∀ name, ¬directory.Clears target name) :
    directory.created target = .ok directory ∨
      ∃ reason, directory.created target = .error reason := by
  cases target with
  | standard => exact .inl rfl
  | file path =>
      cases hlead : directory.leadToOutput path with
      | file name => exact absurd ⟨path, rfl, .inl hlead⟩ (h name)
      | vacant name => exact absurd ⟨path, rfl, .inr hlead⟩ (h name)
      | _ => simp [created, createPath, hlead]

/-- An output that was made takes what is written to it. -/
theorem written_of_clears {target : Target} {name : String} (h : directory.Clears target name)
    {made : Directory} (hmade : made.files = (directory.put name []).files) (bytes : List UInt8) :
    made.written bytes target = .ok (made.put name bytes) := by
  obtain ⟨path, rfl, hlead⟩ := h
  have hempty : made.content? name = some [] := by
    rw [content?_of_files hmade, content?_put, if_pos rfl]
  simp only [written, writePath, leadToOutput_of_files hmade, hlead.put, hempty, Option.getD_some,
    List.nil_append]

theorem files_written_of_not_clears {target : Target} (h : ∀ name, ¬directory.Clears target name)
    {bytes : List UInt8} {after : Directory}
    (hwritten : directory.written bytes target = .ok after) :
    after.files = directory.files := by
  cases target with
  | standard =>
      cases hwritten
      rfl
  | file path =>
      simp only [written, writePath] at hwritten
      cases hlead : directory.leadToOutput path with
      | file name => exact absurd ⟨path, rfl, .inl hlead⟩ (h name)
      | vacant name => exact absurd ⟨path, rfl, .inr hlead⟩ (h name)
      | device device =>
          simp only [hlead] at hwritten
          cases device with
          | full =>
              simp only at hwritten
              split at hwritten
              · cases hwritten
                rfl
              · cases hwritten
          | _ =>
              cases hwritten
              rfl
      | _ =>
          simp only [hlead] at hwritten
          cases hwritten

/-! ## How a run ends -/

/-- The command gets as far as to make the output, with a format. -/
structure Reaches (directory : Directory) (arguments : Arguments) (format : Format) : Prop where
  selects : ∃ catalog,
    Command.catalogOf arguments.configPath (directory.readPath arguments.configPath) = .ok catalog ∧
      catalog.find arguments.formatName = .ok format
  converts : arguments.listFormats = false
  opens : directory.opened arguments.sourceTarget = .ok ()

theorem Reaches.unique {format other : Format} (h : directory.Reaches arguments format)
    (hother : directory.Reaches arguments other) : format = other := by
  obtain ⟨catalog, hload, hfind⟩ := h.selects
  obtain ⟨_, hotherLoad, hotherFind⟩ := hother.selects
  cases hload.symm.trans hotherLoad
  exact Except.ok.inj (hfind.symm.trans hotherFind)

/-- What a source that is a file delivers once the output was made. -/
def Delivers (directory : Directory) (arguments : Arguments) (output : String) (source : Source) :
    Prop :=
  ∀ path name, arguments.sourceTarget = .file path → directory.lead path = .file name →
    source = .ofBytes RowReader.readLimit (((directory.put output []).content? name).getD []) []

section

variable [NationalDecoders]

/-- How a run of the command ends, and what files it leaves: it lists the formats, it fails before
the output is made, its output is no file, or it leaves the output empty or with a statement. -/
inductive Ends (directory : Directory) (arguments : Arguments) :
    Except ConversionError Unit → Directory → Prop
  | listed {after : Directory} (hlists : arguments.listFormats = true)
      (hfiles : after.files = directory.files) : Ends directory arguments (.ok ()) after
  | refused {e : ConversionError} {after : Directory}
      (hnot : ∀ format, ¬directory.Reaches arguments format)
      (hfiles : after.files = directory.files) : Ends directory arguments (.error e) after
  | elsewhere {result : Except ConversionError Unit} {after : Directory}
      (hnot : ∀ name, ¬directory.Clears arguments.destinationTarget name)
      (hfiles : after.files = directory.files) : Ends directory arguments result after
  | failed {format : Format} {name : String} {source : Source} {e : ConversionError}
      {after : Directory} (hreaches : directory.Reaches arguments format)
      (hclears : directory.Clears arguments.destinationTarget name)
      (hsource : directory.Delivers arguments name source)
      (hstatement : (conversionOf arguments format).statement source = .error e)
      (hfiles : after.files = (directory.put name []).files) :
      Ends directory arguments (.error e) after
  | converted {format : Format} {name : String} {source : Source} {statement : Statement}
      {after : Directory} (hreaches : directory.Reaches arguments format)
      (hclears : directory.Clears arguments.destinationTarget name)
      (hsource : directory.Delivers arguments name source)
      (hstatement : (conversionOf arguments format).statement source = .ok statement)
      (hfiles : after.files =
        (directory.put name ((conversionOf arguments format).rendering statement)).files) :
      Ends directory arguments (.ok ()) after

/-- Without a source no output is made. -/
theorem ends_convert_of_not_opened {loaded : Directory} (hloaded : loaded.files = directory.files)
    (format : Format) {reason : String}
    (hopens : directory.opened arguments.sourceTarget = .error reason) :
    directory.Ends arguments (Command.convert host arguments format loaded).1
      (Command.convert host arguments format loaded).2 := by
  rw [convert_eq, opened_of_files hloaded, hopens]
  refine .refused (fun other hreaches => ?_) hloaded
  rw [hreaches.opens] at hopens
  cases hopens

/-- A conversion to a file leaves it empty or written. -/
theorem ends_convert_of_clears {loaded : Directory} (hloaded : loaded.files = directory.files)
    {format : Format} (hreaches : directory.Reaches arguments format) {name : String}
    (hclears : directory.Clears arguments.destinationTarget name) :
    directory.Ends arguments (Command.convert host arguments format loaded).1
      (Command.convert host arguments format loaded).2 := by
  have hloadedClears := (clears_of_files hloaded _ _).mpr hclears
  have hmade := files_put_of_files hloaded name []
  rw [convert_eq, opened_of_files hloaded, hreaches.opens, created_of_clears hloadedClears]
  simp only
  cases hread : host.readSource arguments.sourceTarget (loaded.put name []) with
  | mk source read =>
      have hfiles : (host.readSource arguments.sourceTarget (loaded.put name [])).2.files =
          (directory.put name []).files := (files_readSource _).trans hmade
      rw [hread] at hfiles
      have hdelivers : directory.Delivers arguments name source := by
        intro path file hpath hlead
        obtain ⟨_, _, houtput⟩ := hclears
        have hmadeLead : (loaded.put name []).lead path = .file file :=
          (lead_of_files hmade path).trans (lead_put houtput.takes [] hlead)
        rw [← content?_of_files hmade, ← readSource_of_lead hmadeLead, ← hpath, hread]
      cases hstatement : (conversionOf arguments format).statement source with
      | error e =>
          simp only [Conversion.run_of_error hstatement]
          exact .failed hreaches hclears hdelivers hstatement hfiles
      | ok statement =>
          simp only [Conversion.run_unlimited_of_statement hstatement]
          have hlogged : (read.log (Conversion.summaryLine statement)).files =
            (directory.put name []).files := hfiles
          rw [written_of_clears hclears hlogged]
          exact .converted hreaches hclears hdelivers hstatement
            ((files_put_of_files hlogged name _).trans (files_put_put name [] _))

/-- A conversion to anything else changes no file. -/
theorem ends_convert_of_not_clears {loaded : Directory} (hloaded : loaded.files = directory.files)
    (format : Format) (hnot : ∀ name, ¬directory.Clears arguments.destinationTarget name) :
    directory.Ends arguments (Command.convert host arguments format loaded).1
      (Command.convert host arguments format loaded).2 := by
  have hkeeps : ∀ {same : Directory}, same.files = directory.files →
      ∀ name, ¬same.Clears arguments.destinationTarget name :=
    fun hsame name hclears => hnot name ((clears_of_files hsame _ _).mp hclears)
  rw [convert_eq]
  cases loaded.opened arguments.sourceTarget with
  | error reason => exact .elsewhere hnot hloaded
  | ok _ =>
      rcases created_of_not_clears (hkeeps hloaded) with hmade | ⟨reason, hmade⟩
      · simp only [hmade]
        cases hread : host.readSource arguments.sourceTarget loaded with
        | mk source read =>
            have hfiles : (host.readSource arguments.sourceTarget loaded).2.files =
                directory.files := (files_readSource _).trans hloaded
            rw [hread] at hfiles
            simp only
            split
            · exact .elsewhere hnot hfiles
            · split
              · exact .elsewhere hnot hfiles
              · rename_i hwritten
                have hafter := files_written_of_not_clears (hkeeps (by exact hfiles)) hwritten
                exact .elsewhere hnot (hafter.trans hfiles)
      · simp only [hmade]
        exact .elsewhere hnot hloaded

/-- **How the command ends.** -/
theorem ends_run (directory : Directory) (arguments : Arguments) :
    directory.Ends arguments (Command.run host arguments directory).1
      (Command.run host arguments directory).2 := by
  have hloaded : ((directory.log (Command.parameters arguments)).afterReading
      arguments.configPath).files = directory.files := files_afterReading _
  rw [run_eq]
  simp only [readPath_log]
  cases hcatalog : Command.catalogOf arguments.configPath
      (directory.readPath arguments.configPath) with
  | error e =>
      refine .refused (fun format hreaches => ?_) hloaded
      obtain ⟨catalog, hload, _⟩ := hreaches.selects
      rw [hcatalog] at hload
      cases hload
  | ok catalog =>
      cases hlists : arguments.listFormats with
      | true => exact .listed hlists hloaded
      | false =>
          cases hfind : catalog.find arguments.formatName with
          | error e =>
              simp only [Bool.false_eq_true, if_false, hfind]
              refine .refused (fun format hreaches => ?_) hloaded
              obtain ⟨_, hload, hfound⟩ := hreaches.selects
              rw [hcatalog] at hload
              cases hload
              rw [hfind] at hfound
              cases hfound
          | ok format =>
              simp only [Bool.false_eq_true, if_false, hfind]
              cases hopens : directory.opened arguments.sourceTarget with
              | error reason => exact ends_convert_of_not_opened hloaded format hopens
              | ok _ =>
                  have hreaches : directory.Reaches arguments format :=
                    ⟨⟨catalog, hcatalog, hfind⟩, hlists, hopens⟩
                  by_cases hclears : ∃ name, directory.Clears arguments.destinationTarget name
                  · obtain ⟨name, hclears⟩ := hclears
                    exact ends_convert_of_clears hloaded hreaches hclears
                  · exact ends_convert_of_not_clears hloaded format (not_exists.mp hclears)

/-! ## Conversions from file to file -/

/-- When source and output are files, what is converted is what the source holds once the output was
made. -/
theorem Ends.of_file {format : Format} (hreaches : directory.Reaches arguments format)
    {output : String} (hclears : directory.Clears arguments.destinationTarget output)
    {path name : String} (hpath : arguments.sourceTarget = .file path)
    (hlead : directory.lead path = .file name) {result : Except ConversionError Unit}
    {after : Directory} (h : directory.Ends arguments result after) :
    let c := conversionOf arguments format
    let source : Source :=
      .ofBytes RowReader.readLimit (((directory.put output []).content? name).getD []) []
    (∃ e, c.statement source = .error e ∧ result = .error e ∧
        after.files = (directory.put output []).files) ∨
      ∃ statement, c.statement source = .ok statement ∧ result = .ok () ∧
        after.files = (directory.put output (c.rendering statement)).files := by
  intro c source
  cases h with
  | listed hlists _ => exact absurd (hreaches.converts.symm.trans hlists) Bool.false_ne_true
  | refused hnot _ => exact absurd hreaches (hnot format)
  | elsewhere hnot _ => exact absurd hclears (hnot output)
  | failed hother hmade hsource hstatement hfiles =>
      obtain rfl := hreaches.unique hother
      obtain rfl := hclears.unique hmade
      obtain rfl := hsource path name hpath hlead
      exact .inl ⟨_, hstatement, rfl, hfiles⟩
  | converted hother hmade hsource hstatement hfiles =>
      obtain rfl := hreaches.unique hother
      obtain rfl := hclears.unique hmade
      obtain rfl := hsource path name hpath hlead
      exact .inr ⟨_, hstatement, rfl, hfiles⟩

/-! ## Exit codes -/

/-- Only the files matter for how a run ended. -/
theorem Ends.of_files {result : Except ConversionError Unit} {after other : Directory}
    (h : directory.Ends arguments result after) (hsame : other.files = after.files) :
    directory.Ends arguments result other := by
  cases h with
  | listed hlists hfiles => exact .listed hlists (hsame.trans hfiles)
  | refused hnot hfiles => exact .refused hnot (hsame.trans hfiles)
  | elsewhere hnot hfiles => exact .elsewhere hnot (hsame.trans hfiles)
  | failed hreaches hclears hsource hstatement hfiles =>
      exact .failed hreaches hclears hsource hstatement (hsame.trans hfiles)
  | converted hreaches hclears hsource hstatement hfiles =>
      exact .converted hreaches hclears hsource hstatement (hsame.trans hfiles)

/-- A run that was asked for exits with 0 or with 1, as it ended. -/
theorem runCommand_of_run {texts : List String} (hread : Arguments.read texts = .run arguments)
    (directory : Directory) :
    (∃ after, directory.runCommand texts = (0, after) ∧ directory.Ends arguments (.ok ()) after) ∨
      ∃ e after, directory.runCommand texts = (1, after) ∧
        directory.Ends arguments (.error e) after := by
  have hends := directory.ends_run arguments
  simp only [runCommand_eq, hread]
  cases hrun : Command.run host arguments directory with
  | mk result after =>
      rw [hrun] at hends
      cases result with
      | ok _ => exact .inl ⟨after, rfl, hends⟩
      | error e => exact .inr ⟨e, _, rfl, hends.of_files rfl⟩

theorem ends_of_exit_zero {texts : List String} (hread : Arguments.read texts = .run arguments)
    {after : Directory} (h : directory.runCommand texts = (0, after)) :
    directory.Ends arguments (.ok ()) after := by
  rcases runCommand_of_run hread directory with ⟨_, hrun, hends⟩ | ⟨_, _, hrun, _⟩
  · obtain ⟨_, rfl⟩ := Prod.mk.inj (hrun.symm.trans h)
    exact hends
  · cases hrun.symm.trans h

/-- A conversion from file to file exits with 0 when there is a statement of what the source holds
once the output was made, and with 1 when there is none. -/
theorem runCommand_of_file {texts : List String} (hread : Arguments.read texts = .run arguments)
    {format : Format} (hreaches : directory.Reaches arguments format) {output : String}
    (hclears : directory.Clears arguments.destinationTarget output) {path name : String}
    (hpath : arguments.sourceTarget = .file path) (hlead : directory.lead path = .file name) :
    let c := conversionOf arguments format
    let source : Source :=
      .ofBytes RowReader.readLimit (((directory.put output []).content? name).getD []) []
    ∃ after,
      (∃ e, c.statement source = .error e ∧ directory.runCommand texts = (1, after) ∧
          after.files = (directory.put output []).files) ∨
        ∃ statement, c.statement source = .ok statement ∧
          directory.runCommand texts = (0, after) ∧
          after.files = (directory.put output (c.rendering statement)).files := by
  intro c source
  obtain ⟨after, hrun, hends⟩ | ⟨_, after, hrun, hends⟩ := runCommand_of_run hread directory <;>
    obtain ⟨e, hstatement, hresult, hfiles⟩ | ⟨statement, hstatement, hresult, hfiles⟩ :=
      hends.of_file hreaches hclears hpath hlead
  · cases hresult
  · exact ⟨after, .inr ⟨statement, hstatement, hrun, hfiles⟩⟩
  · exact ⟨after, .inl ⟨e, hstatement, hrun, hfiles⟩⟩
  · cases hresult

end

/-! ## An example -/

/-- A directory with the document of a catalog, an export and an older document. -/
def directoryOf (specs exported document : List UInt8) : Directory where
  files := [("specs.json", specs), ("a.csv", exported), ("out.ofx", document)]
  input := []
  shown := []
  logged := []

/-- The document of a catalog of one format. -/
def exampleSpecs : List UInt8 :=
  Utf8.encode (⟨[.exampleFormat]⟩ : Catalog).toText.toList

/-- The arguments `-s a.csv -d` with a destination. -/
def argumentsTo (destination : String) : Arguments :=
  { Arguments.none with source := some "a.csv", destination := some destination }

theorem read_argumentsTo {destination : String}
    (h : Arguments.looksLikeOption destination = false) :
    Arguments.read ["-s", "a.csv", "-d", destination] = .run (argumentsTo destination) := by
  show (if Arguments.looksLikeOption destination then _ else _) = _
  rw [h]
  rfl

theorem sourceTarget_argumentsTo (destination : String) :
    (argumentsTo destination).sourceTarget = .file "a.csv" := by
  simp +decide [Arguments.sourceTarget, argumentsTo, Target.ofText]

theorem readPath_specs (specs exported document : List UInt8) :
    (directoryOf specs exported document).readPath "specs.json" = .ok specs :=
  rfl

theorem lead_exported (specs exported document : List UInt8) :
    (directoryOf specs exported document).lead "a.csv" = .file "a.csv" :=
  rfl

theorem catalogOf_exampleSpecs :
    Command.catalogOf "specs.json" (.ok exampleSpecs) = .ok ⟨[.exampleFormat]⟩ := by
  rw [Command.catalogOf, exampleSpecs, Utf8.decode?_encode]
  simp only [String.ofList_toList]
  exact Catalog.ofText_of_storable Catalog.storable_exampleFormat

theorem reaches_exampleFormat (exported document : List UInt8) (destination : String) :
    (directoryOf exampleSpecs exported document).Reaches (argumentsTo destination)
      .exampleFormat where
  selects := by
    refine ⟨⟨[.exampleFormat]⟩, ?_, rfl⟩
    exact (congrArg _ (readPath_specs ..)).trans catalogOf_exampleSpecs
  converts := rfl
  opens := by
    rw [sourceTarget_argumentsTo, opened, openPath, lead_exported]

theorem clears_document (specs exported document : List UInt8) :
    (directoryOf specs exported document).Clears (argumentsTo "out.ofx").destinationTarget
      "out.ofx" :=
  ⟨"out.ofx", by decide, .inl rfl⟩

theorem clears_exported (specs exported document : List UInt8) :
    (directoryOf specs exported document).Clears (argumentsTo "a.csv").destinationTarget "a.csv" :=
  ⟨"a.csv", by decide, .inl rfl⟩

/-- The export is converted to the file of the document. -/
theorem runCommand_directoryOf [NationalDecoders] (exported document : List UInt8) :
    let directory := directoryOf exampleSpecs exported document
    let c := conversionOf (argumentsTo "out.ofx") .exampleFormat
    ∃ after,
      (∃ e, c.statement (.ofBytes RowReader.readLimit exported []) = .error e ∧
          directory.runCommand ["-s", "a.csv", "-d", "out.ofx"] = (1, after) ∧
          after.files = (directory.put "out.ofx" []).files) ∨
        ∃ statement, c.statement (.ofBytes RowReader.readLimit exported []) = .ok statement ∧
          directory.runCommand ["-s", "a.csv", "-d", "out.ofx"] = (0, after) ∧
          after.files = (directory.put "out.ofx" (c.rendering statement)).files := by
  intro directory c
  have hcontent : ((directory.put "out.ofx" []).content? "a.csv").getD [] = exported := by
    rw [content?_put, if_neg (by decide)]
    rfl
  have hreaches := reaches_exampleFormat exported document "out.ofx"
  have hrun := runCommand_of_file (read_argumentsTo (by decide)) hreaches (clears_document ..)
    (sourceTarget_argumentsTo _) (lead_exported ..)
  rwa [hcontent] at hrun

end BankStatement.Directory
