import BankStatement.Proofs.Catalog.Reload
import BankStatement.Proofs.Conversion.Refinement
import BankStatement.Proofs.Format.Columns

/-!
# Formats of loaded catalogs

Loading a catalog checks all of its formats, and what is checked is what is used later: the dialect
of a format when a source is opened, and single columns when the texts and dates of a row are read.
So a conversion by a format of a loaded catalog fails for the source's or the output's reasons, or
because a row is too short, and for no other (`Catalog.find_of_ofText`).
-/

namespace BankStatement

/-! ## Rows of usable formats -/

/-- A format that passed its check reads the rows of every source. -/
theorem Format.exists_rowReader [NationalDecoders] {format : Format} (h : format.check = .ok ())
    (source : Source) : ∃ reader, format.rowReader source = .ok reader := by
  obtain ⟨⟨dialect, hdialect⟩, _⟩ := Format.of_check h
  refine ⟨dialect.rowReader source, ?_⟩
  unfold Format.rowReader
  rw [hdialect]

theorem Format.FirstMalformed.decode {format : Format} {rows : List RawRow} {row : RawRow}
    {e : RowError} (h : format.FirstMalformed rows row e) :
    row ∈ rows ∧ format.decode (.ofBytes row.fields) = .error e := by
  induction h with
  | here hdecode => exact ⟨List.mem_cons_self .., hdecode⟩
  | later _ _ ih => exact ⟨List.mem_cons_of_mem _ ih.1, ih.2⟩

/-! ## Conversions by usable formats -/

namespace Conversion

variable [NationalDecoders]

/-- The output takes the statement of the source, if there is one, and is flushed. -/
def Accepts (c : Conversion) (source : Source) (output : Sink) : Prop :=
  ∀ statement, c.statement source = .ok statement →
    ∃ after, c.write statement output = (.ok (), after)

/-- An output without bounds takes every statement. -/
theorem accepts_unlimited (c : Conversion) (source : Source) : c.Accepts source .unlimited := by
  intro statement _
  refine ⟨{ Sink.unlimited with written := c.rendering statement }, ?_⟩
  rw [write, writeLines_lines, Sink.write_unlimited]
  rfl

/-- A source that does not fail has no statement only when one of its rows gives no transaction. -/
theorem exists_row_of_statement_error {c : Conversion} (hcheck : c.format.check = .ok ())
    {source : Source} (hsource : source.NeverFails) {e : ConversionError}
    (h : c.statement source = .error e) :
    ∃ reader row rowError, c.format.rowReader source = .ok reader ∧
      row ∈ reader.rows.rows.drop 1 ∧ c.format.decode (.ofBytes row.fields) = .error rowError ∧
      e = .malformedRow row.line rowError := by
  obtain ⟨reader, hreader⟩ := Format.exists_rowReader hcheck source
  rcases Format.exists_decodes_or_firstMalformed c.format (reader.rows.rows.drop 1) with
    ⟨transactions, hdecodes⟩ | ⟨row, rowError, hfirst⟩
  · -- all rows give transactions
    rw [statement_of_forall₂ hreader hsource hdecodes] at h
    cases h
  · rw [statement_of_firstMalformed hreader hsource hfirst] at h
    cases h
    obtain ⟨hmem, hdecode⟩ := hfirst.decode
    exact ⟨reader, row, rowError, hreader, hmem, hdecode, rfl⟩

/-- A conversion whose output does not fail has the result of its statement. -/
theorem result_run_of_accepts {c : Conversion} {source : Source} {output : Sink}
    (h : c.Accepts source output) (log : Sink) :
    (c.run source output log).result = c.statement source := by
  unfold run
  cases hstatement : c.statement source with
  | error e => rfl
  | ok statement =>
      obtain ⟨after, hwrite⟩ := h statement hstatement
      simp only [hwrite]

end Conversion

/-! ## Formats that are looked up -/

namespace Catalog

/-- The format is the one that is meant by the name: the first of that name, or the first of all
when none has it. -/
def Selects (catalog : Catalog) (name : String) (format : Format) : Prop :=
  (∃ before after, catalog.formats = before ++ format :: after ∧ format.name = name ∧
      ∀ other ∈ before, other.name ≠ name) ∨
    ((∀ other ∈ catalog.formats, other.name ≠ name) ∧ ∃ rest, catalog.formats = format :: rest)

theorem Selects.mem {catalog : Catalog} {name : String} {format : Format}
    (h : catalog.Selects name format) : format ∈ catalog.formats := by
  rcases h with ⟨before, after, hformats, _⟩ | ⟨_, rest, hformats⟩
  · rw [hformats]
    exact List.mem_append_right _ (List.mem_cons_self ..)
  · rw [hformats]
    exact List.mem_cons_self ..

/-- A catalog that is not empty has a format for every name. -/
theorem find_selects {catalog : Catalog} (h : catalog.formats ≠ []) (name : String) :
    ∃ format, catalog.find name = .ok format ∧ catalog.Selects name format := by
  unfold find
  cases hfind : catalog.formats.find? fun format => format.name == name with
  | some format =>
      obtain ⟨hname, before, after, hformats, hbefore⟩ := List.find?_eq_some_iff_append.mp hfind
      refine ⟨format, rfl, .inl ⟨before, after, hformats, by simpa using hname, ?_⟩⟩
      intro other hother
      simpa using hbefore other hother
  | none =>
      have hother : ∀ other ∈ catalog.formats, other.name ≠ name := by
        simpa using List.find?_eq_none.mp hfind
      obtain ⟨format, rest, hformats⟩ := List.exists_cons_of_ne_nil h
      refine ⟨format, ?_, .inr ⟨hother, rest, hformats⟩⟩
      simp only [hformats]

/-- **What was loaded can be used.**  Whatever name is looked up in a loaded catalog that is not
empty, the format that is meant reads the rows of every source, and a row gives no transaction only
when it is too short for one of the four fields that are read.  So a conversion of a source that
does not fail, to an output that does not fail, has no other reason to fail than such a row. -/
theorem find_of_ofText [NationalDecoders] {text : String} {catalog : Catalog}
    (hload : ofText text = .ok catalog) (hformats : catalog.formats ≠ []) (name : String) :
    ∃ format, catalog.find name = .ok format ∧ catalog.Selects name format ∧
      (∀ source, ∃ reader, format.rowReader source = .ok reader) ∧
      (∀ row e, format.decode row = .error e → format.RowTooShort row e) ∧
      ∀ (c : Conversion) (source : Source) (output log : Sink), c.format = format →
        source.NeverFails → c.Accepts source output →
        ∀ e, (c.run source output log).result = .error e →
          ∃ reader row rowError, format.rowReader source = .ok reader ∧
            row ∈ reader.rows.rows.drop 1 ∧ e = .malformedRow row.line rowError ∧
            format.RowTooShort (.ofBytes row.fields) rowError := by
  obtain ⟨format, hfind, hselects⟩ := find_selects hformats name
  have hcheck : format.check = .ok () := check_of_ofText hload format hselects.mem
  have hshort : ∀ row e, format.decode row = .error e → format.RowTooShort row e :=
    fun row e => Format.rowTooShort_of_decode_error (Format.readsColumns_of_check hcheck)
  refine ⟨format, hfind, hselects, Format.exists_rowReader hcheck, hshort, ?_⟩
  rintro c source output log rfl hsource haccepts e hresult
  rw [Conversion.result_run_of_accepts haccepts] at hresult
  obtain ⟨reader, row, rowError, hreader, hrow, hdecode, rfl⟩ :=
    Conversion.exists_row_of_statement_error hcheck hsource hresult
  exact ⟨reader, row, rowError, hreader, hrow, rfl, hshort _ _ hdecode⟩

attribute [local instance] NationalDecoders.asciiOnly

/-- A row of two columns, of which the amount needs more. -/
theorem find_of_ofText_exampleFormat :
    let catalog : Catalog := ⟨[.exampleFormat]⟩
    let c : Conversion := ⟨.exampleFormat, .default, Ofx.defaultAccountType⟩
    let source : Source := [.bytes 0x78 (Utf8.encode ";;;;\n01.02.2024;x".toList)]
    let e : RowError := ⟨"trnamt", .malformedRow 3 2⟩
    ofText catalog.toText = .ok catalog ∧ catalog.formats ≠ [] ∧
      catalog.find "spv-kreditt" = .ok .exampleFormat ∧ source.NeverFails ∧
      c.Accepts source .unlimited ∧
      (c.run source .unlimited .unlimited).result = .error (.malformedRow 2 e) ∧
      ∃ row : RawRow, row.line = 2 ∧ Format.exampleFormat.RowTooShort (.ofBytes row.fields) e := by
  intro catalog c source e
  have hload : ofText catalog.toText = .ok catalog := ofText_of_storable storable_exampleFormat
  have hfind : catalog.find "spv-kreditt" = .ok .exampleFormat := rfl
  have hsource : source.NeverFails := by simp [Source.NeverFails, source]
  have haccepts : c.Accepts source .unlimited := c.accepts_unlimited source
  -- what the conversion makes of the source
  let reader : RowReader := .ofSource 0x3b source
  have hreader : c.format.rowReader source = .ok reader := Format.rowReader_exampleFormat source
  have hrows : reader.rows.rows.drop 1 =
      [⟨2, ["01.02.2024", "x"].map fun text => Utf8.encode text.toList⟩] := by
    rw [RowReader.rows_ofSource]
    decide
  have hfirst : c.format.FirstMalformed (reader.rows.rows.drop 1)
      ⟨2, ["01.02.2024", "x"].map fun text => Utf8.encode text.toList⟩ e := by
    rw [hrows]
    exact .here (by decide)
  have hresult : (c.run source .unlimited .unlimited).result = .error (.malformedRow 2 e) := by
    rw [Conversion.result_run_of_accepts haccepts,
      Conversion.statement_of_firstMalformed hreader hsource hfirst]
  obtain ⟨format, hfound, _, _, _, hrun⟩ :=
    find_of_ofText hload (List.cons_ne_nil _ _) "spv-kreditt"
  obtain rfl : Format.exampleFormat = format := Except.ok.inj (hfind.symm.trans hfound)
  obtain ⟨_, row, rowError, _, _, herror, hshort⟩ :=
    hrun c source .unlimited .unlimited rfl hsource haccepts _ hresult
  obtain ⟨hline, rfl⟩ := ConversionError.malformedRow.inj herror
  exact ⟨hload, List.cons_ne_nil _ _, hfind, hsource, haccepts, hresult, row, hline.symm, hshort⟩

end Catalog

end BankStatement
