import BankStatement.Proofs.CommandLine.Run
import BankStatement.Proofs.Conversion.WrittenAmounts

/-!
# What a command has converted

A command that converts a file to another file writes the statement of what the source held.  When
the output is the source itself it does not: the output is made before the source is read, so the
source is empty by then, and the document that takes its place has no transactions
(`Directory.output_of_exit_zero`).  Equal paths are only one way to get there, since different paths
may lead to one file; the condition is on the files.

That the two documents are not the same follows from what a reader finds in them: statements that
are written in the same bytes have equally many transactions
(`Conversion.length_transactions_of_rendering`).
-/

namespace BankStatement

/-! ## What is converted -/

namespace Conversion

variable {c : Conversion}

theorem statement_of_nil [NationalDecoders] {statement : Statement}
    (h : c.statement [] = .ok statement) :
    statement = ⟨c.format.currency, c.payer, []⟩ := by
  cases hreader : c.format.rowReader [] with
  | error e =>
      unfold Conversion.statement Format.readTransactions at h
      rw [hreader] at h
      cases h
  | ok reader => exact Except.ok.inj (h.symm.trans (statement_nil hreader))

/-- Statements that are written in the same bytes have equally many transactions. -/
theorem length_transactions_of_rendering (hplain : PlainText c.accountType.toList)
    {first second : Statement} (h : c.rendering first = c.rendering second) :
    first.transactions.length = second.transactions.length := by
  have htext : Ofx.render c.accountType first = Ofx.render c.accountType second := by
    have hdecoded := congrArg Utf8.decode? h
    rw [rendering, rendering, Utf8.decode?_encode, Utf8.decode?_encode] at hdecoded
    exact String.toList_inj.mp (Option.some.inj hdecoded)
  have hlines : Ofx.lines c.accountType first = Ofx.lines c.accountType second := by
    rw [← Ofx.linesOf_render first hplain, htext, Ofx.linesOf_render second hplain]
  have hamounts := congrArg (Ofx.valuesOf "TRNAMT") hlines
  rw [Ofx.valuesOf_transactionAmounts, Ofx.valuesOf_transactionAmounts] at hamounts
  simpa using congrArg List.length hamounts

end Conversion

/-! ## Conversions that succeed -/

namespace Directory

section

variable [NationalDecoders] {directory : Directory} {arguments : Arguments}

/-- The output holds the statement of what the source holds once the output was made. -/
theorem exists_statement_of_exit_zero {texts : List String}
    (hread : Arguments.read texts = .run arguments) (hconverts : arguments.listFormats = false)
    {path source output : String} (hpath : arguments.sourceTarget = .file path)
    (hlead : directory.lead path = .file source)
    (hclears : directory.Clears arguments.destinationTarget output) {after : Directory}
    (h : directory.runCommand texts = (0, after)) :
    ∃ format statement, directory.Reaches arguments format ∧
      (conversionOf arguments format).statement (.ofBytes RowReader.readLimit
        (((directory.put output []).content? source).getD []) []) = .ok statement ∧
      after.content? output = some ((conversionOf arguments format).rendering statement) := by
  have hends := ends_of_exit_zero hread h
  obtain ⟨format, hreaches⟩ : ∃ format, directory.Reaches arguments format := by
    cases hends with
    | listed hlists _ => exact absurd (hconverts.symm.trans hlists) Bool.false_ne_true
    | elsewhere hnot _ => exact absurd hclears (hnot output)
    | converted hreaches => exact ⟨_, hreaches⟩
  obtain ⟨_, _, hresult, _⟩ | ⟨statement, hstatement, _, hfiles⟩ :=
    hends.of_file hreaches hclears hpath hlead
  · cases hresult
  · refine ⟨format, statement, hreaches, hstatement, ?_⟩
    rw [content?_of_files hfiles, content?_put, if_pos rfl]

/-! ## An export with one row -/

/-- An export with one row after its header. -/
def kioskExport : List UInt8 :=
  0x68 :: Utf8.encode "\n01.02.2024;x;kiosk;;12.5\n".toList

/-- The statement of the export in the format of the example. -/
def kioskStatement : Statement :=
  ⟨"NOK", .default, [⟨⟨0x4029000000000000⟩,
    some (.ofDate ⟨2024, 2, 1, by decide, by decide, by decide⟩), none, "kiosk"⟩]⟩

theorem statement_kioskExport (destination : String) :
    (conversionOf (argumentsTo destination) .exampleFormat).statement
      (.ofBytes RowReader.readLimit kioskExport []) = .ok kioskStatement := by
  have hresult := Conversion.result_of_kiosk
  rw [Conversion.result_run_of_accepts (Conversion.accepts_unlimited _ _)] at hresult
  rw [kioskExport, Source.ofBytes_of_le (by decide)]
  exact hresult

theorem runCommand_kioskExport (document : List UInt8) :
    ∃ after, (directoryOf exampleSpecs kioskExport document).runCommand
      ["-s", "a.csv", "-d", "out.ofx"] = (0, after) := by
  obtain ⟨after, ⟨_, hstatement, _⟩ | ⟨_, _, hrun, _⟩⟩ :=
    runCommand_directoryOf kioskExport document
  · cases (statement_kioskExport "out.ofx").symm.trans hstatement
  · exact ⟨after, hrun⟩

/-! ## Source and output -/

/-- The file holds the statement of an input. -/
def HoldsStatement (directory : Directory) (name : String) (c : Conversion) (bytes : List UInt8) :
    Prop :=
  ∃ statement, c.statement (.ofBytes RowReader.readLimit bytes []) = .ok statement ∧
    directory.content? name = some (c.rendering statement)

/-- **What a command has converted.**  A command that converts a file to a file and exits with 0
leaves the statement of what the source held, in the selected format and with the payer of the
arguments, when the output is another file.  When it is the source itself, whatever paths lead
there, it leaves a statement without transactions; that is the statement of what the source held
only when this has no transactions either. -/
theorem output_of_exit_zero {texts : List String} (hread : Arguments.read texts = .run arguments)
    (hconverts : arguments.listFormats = false) {path source output : String} {bytes : List UInt8}
    (hpath : arguments.sourceTarget = .file path) (hlead : directory.lead path = .file source)
    (hcontent : directory.content? source = some bytes)
    (hclears : directory.Clears arguments.destinationTarget output) {after : Directory}
    (h : directory.runCommand texts = (0, after)) :
    ∃ catalog format,
      Command.catalogOf arguments.configPath (directory.readPath arguments.configPath) =
          .ok catalog ∧
        catalog.find arguments.formatName = .ok format ∧
        let c : Conversion := ⟨format, Command.payer arguments, Ofx.defaultAccountType⟩
        (source ≠ output → after.HoldsStatement output c bytes) ∧
          (source = output →
            after.content? output = some (c.rendering ⟨format.currency, c.payer, []⟩)) ∧
          (after.HoldsStatement output c bytes ↔ source ≠ output ∨ ∃ statement,
            c.statement (.ofBytes RowReader.readLimit bytes []) = .ok statement ∧
              statement.transactions = []) := by
  obtain ⟨format, converted, hreaches, hstatement, hafter⟩ :=
    exists_statement_of_exit_zero hread hconverts hpath hlead hclears h
  obtain ⟨catalog, hload, hfind⟩ := hreaches.selects
  refine ⟨catalog, format, hload, hfind, ?_⟩
  intro c
  rw [content?_put] at hstatement
  by_cases hsame : source = output
  · -- the output was emptied before the source was read
    have hplain : PlainText Ofx.defaultAccountType.toList := by decide
    have hempty : Source.ofBytes RowReader.readLimit [] [] = [] := by rw [Source.ofBytes]
    rw [if_pos hsame, Option.getD_some, hempty] at hstatement
    obtain rfl := Conversion.statement_of_nil hstatement
    refine ⟨fun hne => absurd hsame hne, fun _ => hafter, ?_⟩
    constructor
    · rintro ⟨statement, hasked, hwritten⟩
      have hlength := Conversion.length_transactions_of_rendering (c := c) hplain
        (Option.some.inj (hwritten.symm.trans hafter))
      exact .inr ⟨statement, hasked, List.length_eq_zero_iff.mp hlength⟩
    · rintro (hne | ⟨statement, hasked, hnone⟩)
      · exact absurd hsame hne
      · refine ⟨statement, hasked, ?_⟩
        rw [Conversion.eq_of_statement hasked, hnone]
        exact hafter
  · rw [if_neg hsame, hcontent, Option.getD_some] at hstatement
    have hholds : after.HoldsStatement output c bytes := ⟨converted, hstatement, hafter⟩
    exact ⟨fun _ => hholds, fun heq => absurd heq hsame, fun _ => .inl hsame, fun _ => hholds⟩

end

attribute [local instance] NationalDecoders.asciiOnly

/-- The export is converted to another file. -/
theorem output_of_exit_zero_kioskExport :
    let directory := directoryOf exampleSpecs kioskExport [0x6f]
    let c : Conversion := ⟨.exampleFormat, .default, Ofx.defaultAccountType⟩
    ∃ after, directory.runCommand ["-s", "a.csv", "-d", "out.ofx"] = (0, after) ∧
      directory.content? "a.csv" = some kioskExport ∧
      after.HoldsStatement "out.ofx" c kioskExport := by
  intro directory c
  obtain ⟨after, hrun⟩ := runCommand_kioskExport [0x6f]
  have hcontent : directory.content? "a.csv" = some kioskExport := rfl
  obtain ⟨catalog, format, hload, hfind, hother, _, _⟩ :=
    output_of_exit_zero (read_argumentsTo (by decide)) rfl (sourceTarget_argumentsTo _)
      (lead_exported ..) hcontent (clears_document ..) hrun
  obtain rfl : Format.exampleFormat = format :=
    (reaches_exampleFormat kioskExport [0x6f] "out.ofx").unique ⟨⟨catalog, hload, hfind⟩, rfl,
      (reaches_exampleFormat kioskExport [0x6f] "out.ofx").opens⟩
  exact ⟨after, hrun, hcontent, hother (by decide)⟩

/-- The export is converted to its own file, which has a statement without the transaction then. -/
theorem runCommand_loses_export :
    let directory := directoryOf exampleSpecs kioskExport [0x6f]
    let c : Conversion := ⟨.exampleFormat, .default, Ofx.defaultAccountType⟩
    ∃ after, directory.runCommand ["-s", "a.csv", "-d", "a.csv"] = (0, after) ∧
      directory.content? "a.csv" = some kioskExport ∧
      after.content? "a.csv" = some (c.rendering ⟨"NOK", .default, []⟩) ∧
      ¬after.HoldsStatement "a.csv" c kioskExport := by
  intro directory c
  have hempty : Source.ofBytes RowReader.readLimit
      (((directory.put "a.csv" []).content? "a.csv").getD []) [] = [] := by
    rw [content?_put, if_pos rfl, Option.getD_some, Source.ofBytes]
  have hnothing : c.statement [] = .ok ⟨"NOK", .default, []⟩ :=
    Conversion.statement_nil (Format.rowReader_exampleFormat [])
  obtain ⟨after, ⟨_, hstatement, _⟩ | ⟨statement, hstatement, hrun, hfiles⟩⟩ :=
    runCommand_of_file (read_argumentsTo (by decide)) (reaches_exampleFormat ..)
      (clears_exported ..) (sourceTarget_argumentsTo _)
      (lead_exported exampleSpecs kioskExport [0x6f])
  · rw [hempty] at hstatement
    cases hnothing.symm.trans hstatement
  · rw [hempty] at hstatement
    cases hnothing.symm.trans hstatement
    have hafter : after.content? "a.csv" = some (c.rendering ⟨"NOK", .default, []⟩) := by
      rw [content?_of_files hfiles, content?_put, if_pos rfl]
      rfl
    refine ⟨after, hrun, rfl, hafter, ?_⟩
    rintro ⟨_, hasked, hwritten⟩
    cases (statement_kioskExport "a.csv").symm.trans hasked
    have hlength := Conversion.length_transactions_of_rendering (c := c) (by decide)
      (Option.some.inj (hwritten.symm.trans hafter))
    cases hlength

end Directory

end BankStatement
