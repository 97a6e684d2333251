import BankStatement.Proofs.Conversion.Sink
import BankStatement.Proofs.Delimited.Reader
import BankStatement.Proofs.Encoding.Transcoding
import Mathlib.Data.List.Forall2

/-!
# A conversion makes one transaction of each row

A conversion is a chain of loops: the transcoder fills buffers, the reader of rows empties them, one
row is passed over, and the rows after it are decoded one at a time until the first that gives no
transaction.  Against that stands a statement about lists.  Let `r₀, r₁, …, rₙ` be the rows that the
reader gives when it is asked until it has no more (`RowReader.rows`).

* When each of `r₁, …, rₙ` gives a transaction, the statement has exactly these, in this order.
* Otherwise the conversion fails with the line and the error of the first that gives none.

The induction is on the calls of `RowReader.next`, for any list of transactions read so far
(`decodeRows_of_forall₂`, `decodeRows_of_firstMalformed`); `RowReader.rows_skip` accounts for the
row that is passed over, also when there is none.  The numbers of header and footer rows that a
format declares occur nowhere.
-/

namespace BankStatement

namespace Format

/-- Whether a row gives a transaction. -/
def Decodes (format : Format) (row : RawRow) (transaction : Transaction) : Prop :=
  format.decode (.ofBytes row.fields) = .ok transaction

/-- Which row is the first that gives no transaction, and why it gives none. -/
inductive FirstMalformed (format : Format) : List RawRow → RawRow → RowError → Prop where
  | here {row : RawRow} {rest : List RawRow} {e : RowError}
      (hrow : format.decode (.ofBytes row.fields) = .error e) :
      FirstMalformed format (row :: rest) row e
  | later {earlier row : RawRow} {rest : List RawRow} {e : RowError} {transaction : Transaction}
      (hearlier : format.Decodes earlier transaction) (hrest : FirstMalformed format rest row e) :
      FirstMalformed format (earlier :: rest) row e

/-! ## The loop over rows -/

/-- Rows that all give transactions are read to the end of the input. -/
theorem decodeRows_of_forall₂ {format : Format} {reader : RowReader} {sofar : List Transaction}
    {transactions : List Transaction} (hcomplete : reader.rows.failure? = none)
    (hdecodes : List.Forall₂ format.Decodes reader.rows.rows transactions) :
    format.decodeRows reader sofar = .ok (sofar.reverse ++ transactions) := by
  fun_induction decodeRows format reader sofar generalizing transactions with
  | case1 reader sofar message _ hnext =>
      simp [RowReader.rows_of_next_error hnext] at hcomplete
  | case2 reader sofar _ hnext =>
      rw [RowReader.rows_of_next_none hnext] at hdecodes
      cases hdecodes
      simp
  | case3 reader sofar row after hnext e hdecode =>
      rw [RowReader.rows_of_next_some hnext] at hdecodes
      cases hdecodes with
      | cons hfirst _ => simp [Decodes, hdecode] at hfirst
  | case4 reader sofar row after hnext transaction hdecode ih =>
      rw [RowReader.rows_of_next_some hnext] at hdecodes hcomplete
      cases hdecodes with
      | cons hfirst hrest =>
          rw [Decodes, hdecode, Except.ok.injEq] at hfirst
          rw [ih hcomplete hrest, hfirst]
          simp

/-- The first row that gives no transaction ends the reading. -/
theorem decodeRows_of_firstMalformed {format : Format} {reader : RowReader}
    {sofar : List Transaction} {row : RawRow} {e : RowError}
    (h : format.FirstMalformed reader.rows.rows row e) :
    format.decodeRows reader sofar = .error (.malformedRow row.line e) := by
  fun_induction decodeRows format reader sofar with
  | case1 reader sofar message _ hnext =>
      rw [RowReader.rows_of_next_error hnext] at h
      cases h
  | case2 reader sofar _ hnext =>
      rw [RowReader.rows_of_next_none hnext] at h
      cases h
  | case3 reader sofar first after hnext e' hdecode =>
      rw [RowReader.rows_of_next_some hnext] at h
      cases h with
      | here hrow =>
          rw [hrow, Except.error.injEq] at hdecode
          rw [hdecode]
      | later hearlier _ => simp [Decodes, hdecode] at hearlier
  | case4 reader sofar first after hnext transaction hdecode ih =>
      rw [RowReader.rows_of_next_some hnext] at h
      cases h with
      | here hrow => simp [hdecode] at hrow
      | later _ hrest => exact ih hrest

/-- Either all rows give transactions, or there is a first one that does not. -/
theorem exists_decodes_or_firstMalformed (format : Format) (rows : List RawRow) :
    (∃ transactions, List.Forall₂ format.Decodes rows transactions) ∨
      ∃ row e, format.FirstMalformed rows row e := by
  induction rows with
  | nil => exact .inl ⟨[], .nil⟩
  | cons row rest ih =>
      cases hdecode : format.decode (.ofBytes row.fields) with
      | error e => exact .inr ⟨row, e, .here hdecode⟩
      | ok transaction =>
          rcases ih with ⟨transactions, hrest⟩ | ⟨bad, e, hrest⟩
          · exact .inl ⟨transaction :: transactions, .cons hdecode hrest⟩
          · exact .inr ⟨bad, e, .later hdecode hrest⟩

section

variable [NationalDecoders]

/-! ## The rows of a source -/

theorem neverFails_rowReader {format : Format} {source : Source} {reader : RowReader}
    (haccepted : format.rowReader source = .ok reader) (hsource : source.NeverFails) :
    reader.source.NeverFails := by
  unfold rowReader at haccepted
  split at haccepted
  · simp at haccepted
  · rename_i dialect _
    rw [Except.ok.injEq] at haccepted
    subst haccepted
    simp only [Dialect.rowReader, RowReader.ofSource, Dialect.utf8Source]
    split
    · exact hsource
    · exact Transcoder.neverFails_toSource hsource _

/-- What is read when the reader can be made and its source does not fail: the rows but the first.
-/
theorem readTransactions_eq_decodeRows {format : Format} {source : Source} {reader : RowReader}
    (haccepted : format.rowReader source = .ok reader) (hsource : source.NeverFails) :
    ∃ after : RowReader, after.rows = ⟨reader.rows.rows.drop 1, none⟩ ∧
      format.readTransactions source = format.decodeRows after [] := by
  have hcomplete := RowReader.failure?_rows_of_neverFails (neverFails_rowReader haccepted hsource)
  have hskip := reader.rows_skip headerRows
  cases hreader : reader.skip headerRows with
  | error message =>
      rw [hreader] at hskip
      simp [hcomplete] at hskip
  | ok after =>
      rw [hreader] at hskip
      simp only [hcomplete, headerRows] at hskip
      refine ⟨after, hskip, ?_⟩
      unfold readTransactions
      rw [haccepted]
      simp only [hreader]

end

end Format

namespace Conversion

section

variable [NationalDecoders]

/-- When every row but the first gives a transaction, these are the statement. -/
theorem statement_of_forall₂ {c : Conversion} {source : Source} {reader : RowReader}
    (haccepted : c.format.rowReader source = .ok reader) (hsource : source.NeverFails)
    {transactions : List Transaction}
    (h : List.Forall₂ c.format.Decodes (reader.rows.rows.drop 1) transactions) :
    c.statement source = .ok ⟨c.format.currency, c.payer, transactions⟩ := by
  obtain ⟨rest, hrest, hread⟩ := Format.readTransactions_eq_decodeRows haccepted hsource
  rw [statement, hread, Format.decodeRows_of_forall₂ (by rw [hrest]) (by rwa [hrest])]
  rfl

/-- The first row that gives no transaction is why there is no statement. -/
theorem statement_of_firstMalformed {c : Conversion} {source : Source} {reader : RowReader}
    (haccepted : c.format.rowReader source = .ok reader) (hsource : source.NeverFails)
    {row : RawRow} {e : RowError}
    (h : c.format.FirstMalformed (reader.rows.rows.drop 1) row e) :
    c.statement source = .error (.malformedRow row.line e) := by
  obtain ⟨rest, hrest, hread⟩ := Format.readTransactions_eq_decodeRows haccepted hsource
  rw [statement, hread, Format.decodeRows_of_firstMalformed (by rwa [hrest])]
  rfl

/-- Writing to a sink that takes everything. -/
theorem run_unlimited_of_statement {c : Conversion} {source : Source} {statement : Statement}
    (h : c.statement source = .ok statement) :
    c.run source .unlimited .unlimited =
      ⟨.ok statement,
        { Sink.unlimited with written := c.rendering statement },
        { Sink.unlimited with written := summaryLine statement }⟩ := by
  unfold run write
  rw [h]
  simp only [writeLines_lines, Sink.write_unlimited, info_summary_unlimited]
  rfl

/-- **A conversion is its list specification.**  Its statement has one transaction for each row but
the first, in order, and output and log are what is written of it; or the first row that gives no
transaction is reported with its line, and nothing is written.  One of the two is always the case.
-/
theorem run_eq_of_rows (c : Conversion) {source : Source} {reader : RowReader}
    (haccepted : c.format.rowReader source = .ok reader) (hsource : source.NeverFails) :
    (∀ transactions, List.Forall₂ c.format.Decodes (reader.rows.rows.drop 1) transactions →
      c.run source .unlimited .unlimited =
        ⟨.ok ⟨c.format.currency, c.payer, transactions⟩,
          { Sink.unlimited with
            written := c.rendering ⟨c.format.currency, c.payer, transactions⟩ },
          { Sink.unlimited with
            written := summaryLine ⟨c.format.currency, c.payer, transactions⟩ }⟩) ∧
    (∀ row e, c.format.FirstMalformed (reader.rows.rows.drop 1) row e →
      c.run source .unlimited .unlimited =
        ⟨.error (.malformedRow row.line e), .unlimited, .unlimited⟩) ∧
    ((∃ transactions, List.Forall₂ c.format.Decodes (reader.rows.rows.drop 1) transactions) ∨
      ∃ row e, c.format.FirstMalformed (reader.rows.rows.drop 1) row e) := by
  refine ⟨fun transactions hdecodes => ?_, fun row e hmalformed => ?_,
    c.format.exists_decodes_or_firstMalformed _⟩
  · exact run_unlimited_of_statement (statement_of_forall₂ haccepted hsource hdecodes)
  · unfold run
    rw [statement_of_firstMalformed haccepted hsource hmalformed]

end

end Conversion

namespace Format

theorem dialect_exampleFormat : exampleFormat.dialect = .ok ⟨0x3b, none⟩ := by
  decide

theorem rowReader_exampleFormat [NationalDecoders] (source : Source) :
    exampleFormat.rowReader source = .ok (.ofSource 0x3b source) := by
  unfold rowReader
  rw [dialect_exampleFormat]
  rfl

end Format

namespace Conversion

attribute [local instance] NationalDecoders.asciiOnly

/-- A header and one row, which the end of the input ends; a date that cannot be read is missing. -/
theorem run_exampleFormat_of_rows :
    let c : Conversion := ⟨.exampleFormat, .default, Ofx.defaultAccountType⟩
    let source : Source := [.bytes 0x78 (Utf8.encode ";;;;\n01.02.2024;x;kiosk;12.5;".toList)]
    let transaction : Transaction :=
      ⟨⟨0xc029000000000000⟩, some (.ofDate ⟨2024, 2, 1, by decide, by decide, by decide⟩), none,
        "kiosk"⟩
    c.format.rowReader source = .ok (.ofSource 0x3b source) ∧ source.NeverFails ∧
      (c.run source .unlimited .unlimited).result = .ok ⟨"NOK", .default, [transaction]⟩ := by
  intro c source transaction
  let reader : RowReader := .ofSource 0x3b source
  have haccepted : c.format.rowReader source = .ok reader := Format.rowReader_exampleFormat source
  have hsource : source.NeverFails := by simp [Source.NeverFails, source]
  -- the header is dropped, and the last row needs no line end
  have hrows : reader.rows.rows.drop 1 =
      [⟨2, ["01.02.2024", "x", "kiosk", "12.5", ""].map fun text => Utf8.encode text.toList⟩] := by
    rw [RowReader.rows_ofSource]
    decide
  have hdecodes : List.Forall₂ c.format.Decodes (reader.rows.rows.drop 1) [transaction] := by
    rw [hrows]
    refine .cons ?_ .nil
    unfold Format.Decodes
    decide +kernel
  have hrun := (run_eq_of_rows c haccepted hsource).1 [transaction] hdecodes
  exact ⟨haccepted, hsource, by rw [hrun]; rfl⟩

end Conversion

end BankStatement
