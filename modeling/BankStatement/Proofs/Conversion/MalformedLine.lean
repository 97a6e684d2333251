import BankStatement.Proofs.Conversion.Atomicity
import BankStatement.Proofs.Conversion.Deliveries

/-!
# The line of a malformed row

A conversion that fails because of a row reports a line.  For an input that is read as UTF-8 it is
the line on which the row before the offending one ended.  That is the line on which the offending
row begins exactly when no line feed stands between the two: the line feed of a pair of carriage
return and line feed does, and so does every blank line (`Conversion.line_of_malformedRow`).

The row that is reported is the first after the header that gives no transaction
(`firstMalformed_of_decodeRows`), so it is one of the rows of the input, which `Lines` cuts where
they begin.  A byte order mark that was dropped holds no line feed and does not count.
-/

namespace BankStatement

namespace Format

/-! ## The row that is reported -/

/-- A row is reported only when it is the first that gives no transaction. -/
theorem firstMalformed_of_decodeRows {format : Format} {reader : RowReader}
    {sofar : List Transaction} {line : Nat} {e : RowError}
    (h : format.decodeRows reader sofar = .error (.malformedRow line e)) :
    ∃ row, format.FirstMalformed reader.rows.rows row e ∧ row.line = line := by
  fun_induction decodeRows format reader sofar with
  | case1 => cases h
  | case2 => cases h
  | case3 reader sofar row after hnext rowError hdecode =>
      cases h
      rw [RowReader.rows_of_next_some hnext]
      exact ⟨row, .here hdecode, rfl⟩
  | case4 reader sofar first after hnext transaction hdecode ih =>
      obtain ⟨row, hfirst, hline⟩ := ih h
      rw [RowReader.rows_of_next_some hnext]
      exact ⟨row, .later hdecode hfirst, hline⟩

theorem firstMalformed_of_readTransactions [NationalDecoders] {format : Format} {source : Source}
    {line : Nat} {e : RowError}
    (h : format.readTransactions source = .error (.malformedRow line e)) :
    ∃ reader row, format.rowReader source = .ok reader ∧
      format.FirstMalformed (reader.rows.rows.drop 1) row e ∧ row.line = line := by
  unfold readTransactions at h
  cases hreader : format.rowReader source with
  | error fault =>
      rw [hreader] at h
      cases h
  | ok reader =>
      rw [hreader] at h
      have hskip := reader.rows_skip headerRows
      cases hafter : reader.skip headerRows with
      | error message =>
          simp only [hafter] at h
          cases h
      | ok after =>
          simp only [hafter] at h
          rw [hafter] at hskip
          obtain ⟨row, hfirst, hline⟩ := firstMalformed_of_decodeRows h
          refine ⟨reader, row, rfl, ?_, hline⟩
          have hrows : after.rows.rows = reader.rows.rows.drop 1 := congrArg RowReading.rows hskip
          rwa [← hrows]

/-- The rows before the first that gives no transaction. -/
theorem FirstMalformed.exists_append {format : Format} {rows : List RawRow} {row : RawRow}
    {e : RowError} (h : format.FirstMalformed rows row e) :
    ∃ earlier later transactions, rows = earlier ++ row :: later ∧
      List.Forall₂ format.Decodes earlier transactions := by
  induction h with
  | @here row rest e _ => exact ⟨[], rest, [], rfl, .nil⟩
  | @later first row rest e transaction hfirst _ ih =>
      obtain ⟨earlier, later, transactions, rfl, hearlier⟩ := ih
      exact ⟨first :: earlier, later, transaction :: transactions, rfl, .cons hfirst hearlier⟩

/-- Among the rows of the input there are the header, rows that give transactions and the row that
is reported, in this order. -/
theorem FirstMalformed.exists_rowsFrom {format : Format} {delimiter : UInt8} {source : Source}
    {row : RawRow} {e : RowError}
    (h : format.FirstMalformed ((RowReader.ofSource delimiter source).rows.rows.drop 1) row e) :
    ∃ header earlier later transactions,
      Splitter.initial.rowsFrom delimiter (Feed.ofSource source).bytes =
        (header :: earlier) ++ row :: later ∧
      List.Forall₂ format.Decodes earlier transactions := by
  obtain ⟨earlier, later, transactions, hrows, hearlier⟩ := h.exists_append
  obtain ⟨more, hmore⟩ := Splitter.rows_ofFeed_isPrefix delimiter (.ofSource source)
  rw [RowReader.rows_ofSource] at hrows
  cases hall : (RowReading.ofFeed delimiter (.ofSource source)).rows with
  | nil => simp [hall] at hrows
  | cons header others =>
      rw [hall] at hrows
      obtain rfl : others = earlier ++ row :: later := hrows
      refine ⟨header, earlier, later ++ more, transactions, ?_, hearlier⟩
      rw [← hmore, hall]
      simp

end Format

namespace Conversion

section

variable [NationalDecoders] {c : Conversion} {source : Source} {output log : Sink} {line : Nat}
  {e : RowError}

/-- A row is reported before anything is written. -/
theorem statement_of_malformedRow
    (h : (c.run source output log).result = .error (.malformedRow line e)) :
    c.statement source = .error (.malformedRow line e) := by
  cases hstatement : c.statement source with
  | error error =>
      rw [run_of_error hstatement] at h
      cases h
      rfl
  | ok statement =>
      -- what fails after that is a write or the flush
      cases hwrite : output.write (c.rendering statement) with
      | mk written after =>
          cases written with
          | error reason =>
              rw [run_of_write_error hstatement hwrite log] at h
              cases h
          | ok _ =>
              rw [run_of_write_ok hstatement hwrite log] at h
              split at h <;> cases h

theorem firstMalformed_of_run
    (h : (c.run source output log).result = .error (.malformedRow line e)) :
    ∃ reader row, c.format.rowReader source = .ok reader ∧
      c.format.FirstMalformed (reader.rows.rows.drop 1) row e ∧ row.line = line := by
  have hstatement := statement_of_malformedRow h
  unfold statement at hstatement
  cases hread : c.format.readTransactions source with
  | error error =>
      rw [hread] at hstatement
      cases hstatement
      exact Format.firstMalformed_of_readTransactions hread
  | ok transactions =>
      rw [hread] at hstatement
      cases hstatement

/-- **A malformed row is reported at the line on which the row before it ended.**  The input, up to
a failure of its source and without a mark that may have been dropped, can be cut where the
offending row begins: the rows before it have ended and, but for the header, give transactions; what
follows are line ends that belong to no row; and the rest begins with the offending row.  The line
that is reported counts the line feeds before those line ends, and so it is the line on which the
row begins exactly when there is no line feed among them. -/
theorem line_of_malformedRow {delimiter : UInt8}
    (hdialect : c.format.dialect = .ok ⟨delimiter, none⟩)
    (hrun : (c.run source output log).result = .error (.malformedRow line e)) :
    ∃ mark before gap rest row later transactions,
      (mark = [] ∨ mark = utf8Mark) ∧
      (Feed.ofDeliveries source).bytes = mark ++ (before ++ gap ++ rest) ∧
      Splitter.RowBegins delimiter before gap rest ∧
      Splitter.initial.rowsFrom delimiter before ≠ [] ∧
      List.Forall₂ c.format.Decodes ((Splitter.initial.rowsFrom delimiter before).drop 1)
        transactions ∧
      Splitter.initial.rowsFrom delimiter rest = row :: later ∧
      c.format.decode (.ofBytes row.fields) = .error e ∧
      line = 1 + before.count Splitter.lineFeed ∧
      (line = 1 + (mark ++ (before ++ gap)).count Splitter.lineFeed ↔
        Splitter.lineFeed ∉ gap) := by
  obtain ⟨reader, reported, hreader, hfirst, hline⟩ := firstMalformed_of_run hrun
  -- the rows are those of the input, without a mark that was dropped
  obtain rfl : RowReader.ofSource delimiter source = reader := by
    unfold Format.rowReader at hreader
    rw [hdialect] at hreader
    exact Except.ok.inj hreader
  obtain ⟨header, earlier, later, transactions, hinput, hearlier⟩ := hfirst.exists_rowsFrom
  -- the offending row, cut off where it begins
  obtain ⟨before, gap, rest, hbytes, hbegins, hbefore, hrest, hreported⟩ :=
    Splitter.exists_rowBegins hinput
  obtain ⟨row, others, hrow, hfields, _⟩ := List.map_eq_cons_iff.mp hrest
  have hdecode : c.format.decode (.ofBytes row.fields) = .error e := by
    rw [hfields]
    exact hfirst.decode.2
  -- a mark has no line feed
  obtain ⟨mark, hmark, hdelivered⟩ : ∃ mark, (mark = [] ∨ mark = utf8Mark) ∧
      (Feed.ofDeliveries source).bytes = mark ++ (Feed.ofSource source).bytes := by
    refine (Feed.exists_mark_ofSource source).resolve_left fun hempty => ?_
    rw [hempty] at hinput
    cases hinput
  have hnone : mark.count Splitter.lineFeed = 0 := by
    rcases hmark with rfl | rfl <;> rfl
  have hcounted : line = 1 + before.count Splitter.lineFeed := hline ▸ hreported
  refine ⟨mark, before, gap, rest, row, others, transactions, hmark, hbytes ▸ hdelivered, hbegins,
    by rw [hbefore]; exact List.cons_ne_nil _ _, by rw [hbefore]; exact hearlier, hrow, hdecode,
    hcounted, ?_⟩
  rw [List.count_append, List.count_append, hnone, hcounted, ← List.count_eq_zero]
  omega

/-! ## Line feeds alone, and pairs of carriage return and line feed -/

/-- The example's report of a row that is too short, after one that is read. -/
theorem result_of_short_row {source : Source} (hsource : source.NeverFails) (first : Nat)
    {line : Nat}
    (hrows : (RowReader.ofSource 0x3b source).rows.rows.drop 1 =
      [⟨first, ["01.02.2024", "x", "kiosk", "", "1"].map fun text => Utf8.encode text.toList⟩,
        ⟨line, ["01.02.2024", "x"].map fun text => Utf8.encode text.toList⟩]) :
    ((⟨.exampleFormat, .default, Ofx.defaultAccountType⟩ : Conversion).run source .unlimited
      .unlimited).result = .error (.malformedRow line ⟨"trnamt", .malformedRow 3 2⟩) := by
  let c : Conversion := ⟨.exampleFormat, .default, Ofx.defaultAccountType⟩
  have hread : Format.exampleFormat.decode
      (.ofBytes (["01.02.2024", "x", "kiosk", "", "1"].map fun text => Utf8.encode text.toList)) =
        .ok ⟨⟨0x3ff0000000000000⟩,
          some (.ofDate ⟨2024, 2, 1, by decide, by decide, by decide⟩), none, "kiosk"⟩ := by
    decide +kernel
  have hshort : Format.exampleFormat.decode
      (.ofBytes (["01.02.2024", "x"].map fun text => Utf8.encode text.toList)) =
        .error ⟨"trnamt", .malformedRow 3 2⟩ := by
    decide
  have hfirst : c.format.FirstMalformed ((RowReader.ofSource 0x3b source).rows.rows.drop 1)
      ⟨line, ["01.02.2024", "x"].map fun text => Utf8.encode text.toList⟩
      ⟨"trnamt", .malformedRow 3 2⟩ := by
    rw [hrows]
    exact .later hread (.here hshort)
  rw [result_run_of_accepts (c.accepts_unlimited source),
    statement_of_firstMalformed (Format.rowReader_exampleFormat source) hsource hfirst]

end

attribute [local instance] NationalDecoders.asciiOnly

/-- Lines that end in line feeds: the row is on the line that is reported. -/
theorem line_of_malformedRow_lineFeed :
    let c : Conversion := ⟨.exampleFormat, .default, Ofx.defaultAccountType⟩
    let source : Source :=
      [.bytes 0x68 (Utf8.encode "\n01.02.2024;x;kiosk;;1\n01.02.2024;x".toList)]
    let e : RowError := ⟨"trnamt", .malformedRow 3 2⟩
    c.format.dialect = .ok ⟨0x3b, none⟩ ∧
      (c.run source .unlimited .unlimited).result = .error (.malformedRow 3 e) ∧
      ∃ mark before gap rest, (Feed.ofDeliveries source).bytes = mark ++ (before ++ gap ++ rest) ∧
        Splitter.RowBegins 0x3b before gap rest ∧ 3 = 1 + before.count Splitter.lineFeed := by
  intro c source e
  have hdialect : c.format.dialect = .ok ⟨0x3b, none⟩ := Format.dialect_exampleFormat
  have hsource : source.NeverFails := by simp [Source.NeverFails, source]
  have hresult : (c.run source .unlimited .unlimited).result = .error (.malformedRow 3 e) := by
    refine result_of_short_row hsource 2 ?_
    rw [RowReader.rows_ofSource]
    decide
  obtain ⟨mark, before, gap, rest, _, _, _, _, hbytes, hbegins, _, _, _, _, hline, _⟩ :=
    line_of_malformedRow hdialect hresult
  exact ⟨hdialect, hresult, mark, before, gap, rest, hbytes, hbegins, hline⟩

/-- Lines that end in a carriage return and a line feed: the line that is reported is 2, and two
lines have ended before the row that is too short. -/
theorem malformedRow_of_pairs :
    let c : Conversion := ⟨.exampleFormat, .default, Ofx.defaultAccountType⟩
    let before := 0x68 :: Utf8.encode "\r\n01.02.2024;x;kiosk;;1\r\n".toList
    let row := Utf8.encode "01.02.2024;x".toList
    let source : Source :=
      [.bytes 0x68 (Utf8.encode "\r\n01.02.2024;x;kiosk;;1\r\n01.02.2024;x".toList)]
    let e : RowError := ⟨"trnamt", .malformedRow 3 2⟩
    source.bytes = before ++ row ∧ before.count Splitter.lineFeed = 2 ∧
      (c.run source .unlimited .unlimited).result = .error (.malformedRow 2 e) := by
  intro c before row source e
  have hsource : source.NeverFails := by simp [Source.NeverFails, source]
  refine ⟨by decide, by decide, result_of_short_row hsource 1 ?_⟩
  rw [RowReader.rows_ofSource]
  decide

end Conversion

end BankStatement
