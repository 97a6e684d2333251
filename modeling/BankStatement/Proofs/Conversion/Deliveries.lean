import BankStatement.Proofs.Catalog.Loading
import BankStatement.Proofs.Delimited.Marked

/-!
# Conversions of the same bytes, delivered in different ways

A source may be a file or a pipe, and hands out as many bytes at a time as it likes.  What a
conversion makes of it is a function of its bytes, with one exception: when the input, as UTF-8,
begins with a byte order mark, it depends on how much of the mark the first read brings
(`Conversion.run_eq_of_bytes`).  The exception is real for every input that begins with a mark, and
it can cost the whole statement (`Conversion.run_of_cut_mark`).

Between the rows and the run there is nothing that sees the source, so the work is in the rows
(`RowReader.rows_ofSource_congr`), and in the transcoder, whose text is that of the whole input.
-/

namespace BankStatement

namespace Format

section

variable [NationalDecoders]

/-! ## The input as UTF-8 -/

/-- The bytes of an input as UTF-8. -/
def Dialect.utf8Bytes (dialect : Dialect) (bytes : List UInt8) : List UInt8 :=
  match dialect.encoding? with
  | none => bytes
  | some encoding => Utf8.encode (encoding.decode bytes)

theorem Dialect.neverFails_utf8Source (dialect : Dialect) {source : Source}
    (hsource : source.NeverFails) : (dialect.utf8Source source).NeverFails := by
  unfold utf8Source
  cases dialect.encoding? with
  | none => exact hsource
  | some encoding => exact Transcoder.neverFails_toSource hsource _

theorem Dialect.bytes_utf8Source (dialect : Dialect) {source : Source}
    (hsource : source.NeverFails) :
    (dialect.utf8Source source).bytes = dialect.utf8Bytes source.bytes := by
  unfold utf8Source utf8Bytes
  cases dialect.encoding? with
  | none => rfl
  | some encoding =>
      exact (Transcoder.bytes_toSource (Transcoder.consistent_ofSource encoding source) hsource
        (by decide)).trans (Transcoder.pending_ofSource encoding source)

theorem Dialect.utf8Bytes_nil (dialect : Dialect) : dialect.utf8Bytes [] = [] := by
  unfold utf8Bytes
  cases dialect.encoding? with
  | none => rfl
  | some encoding =>
      show Utf8.encode (encoding.decode []) = []
      rw [encoding.decode_nil]
      rfl

end

theorem delimiterByte_of_dialect {format : Format} {dialect : Dialect}
    (h : format.dialect = .ok dialect) :
    delimiterByte format.delimiter = .ok dialect.delimiter := by
  unfold Format.dialect at h
  cases hdelimiter : delimiterByte format.delimiter with
  | error e =>
      rw [hdelimiter] at h
      cases h
  | ok delimiter =>
      rw [hdelimiter] at h
      cases hencoding : Encoding.resolve format.encodingLabel with
      | error e =>
          simp only [hencoding] at h
          cases h
      | ok encoding? =>
          simp only [hencoding] at h
          cases h
          rfl

/-! ## Rows -/

section

variable [NationalDecoders] {format : Format} {dialect : Dialect}

theorem readRows_of_dialect (h : format.dialect = .ok dialect) (source : Source) :
    format.readRows source =
      .ok (RowReader.ofSource dialect.delimiter (dialect.utf8Source source)).rows := by
  unfold readRows rowReader
  rw [h]
  rfl

/-- The rows depend on the bytes, and on what the first read brings of a mark. -/
theorem readRows_congr (hdialect : format.dialect = .ok dialect) {source other : Source}
    (hsource : source.NeverFails) (hother : other.NeverFails) (hbytes : source.bytes = other.bytes)
    (hmark : utf8Mark <+: dialect.utf8Bytes source.bytes →
      (dialect.utf8Source source).markRead = (dialect.utf8Source other).markRead) :
    format.readRows source = format.readRows other := by
  have hutf8 : (dialect.utf8Source source).bytes = (dialect.utf8Source other).bytes := by
    rw [dialect.bytes_utf8Source hsource, dialect.bytes_utf8Source hother, hbytes]
  rw [readRows_of_dialect hdialect, readRows_of_dialect hdialect]
  apply congrArg Except.ok
  apply RowReader.rows_ofSource_congr dialect.delimiter (dialect.neverFails_utf8Source hsource)
    (dialect.neverFails_utf8Source hother) hutf8
  rwa [dialect.bytes_utf8Source hsource]

/-- Without an encoding, a mark can be delivered in two ways that give different rows. -/
theorem exists_readRows_ne (hdialect : format.dialect = .ok dialect)
    (hencoding : dialect.encoding? = none) {bytes : List UInt8} (hmark : utf8Mark <+: bytes) :
    ∃ source other : Source, source.NeverFails ∧ other.NeverFails ∧ source.bytes = bytes ∧
      other.bytes = bytes ∧ format.readRows source ≠ format.readRows other := by
  have hplain : ∀ source, dialect.utf8Source source = source := by
    intro source
    unfold Dialect.utf8Source
    rw [hencoding]
  obtain ⟨alone, parts, halone, hparts, haloneBytes, hpartsBytes, hnone, hsome⟩ :=
    RowReader.exists_rows_ne (lt_of_delimiterByte (delimiterByte_of_dialect hdialect)) hmark
  refine ⟨alone, parts, halone, hparts, haloneBytes, hpartsBytes, fun hsame => hsome ?_⟩
  rw [readRows_of_dialect hdialect, readRows_of_dialect hdialect, hplain, hplain] at hsame
  rw [← Except.ok.inj hsame, hnone]

end

/-! ## Transactions -/

/-- Readers with the same rows give the same transactions, or report the same row. -/
theorem decodeRows_congr {format : Format} {reader other : RowReader}
    (h : reader.rows = other.rows) (hcomplete : reader.rows.failure? = none) :
    format.decodeRows reader [] = format.decodeRows other [] := by
  have hother : other.rows.failure? = none := by rwa [← h]
  rcases format.exists_decodes_or_firstMalformed reader.rows.rows with
    ⟨transactions, hdecodes⟩ | ⟨row, e, hfirst⟩
  · rw [decodeRows_of_forall₂ hcomplete hdecodes, decodeRows_of_forall₂ hother (h ▸ hdecodes)]
  · rw [decodeRows_of_firstMalformed hfirst, decodeRows_of_firstMalformed (h ▸ hfirst)]

/-- Sources with the same rows have the same transactions. -/
theorem readTransactions_congr [NationalDecoders] {format : Format} {source other : Source}
    (hsource : source.NeverFails) (hother : other.NeverFails)
    (h : format.readRows source = format.readRows other) :
    format.readTransactions source = format.readTransactions other := by
  unfold readRows at h
  cases hreader : format.rowReader source with
  | error e =>
      cases hotherReader : format.rowReader other with
      | error e' =>
          rw [hreader, hotherReader] at h
          obtain rfl : e = e' := Except.error.inj h
          unfold readTransactions
          rw [hreader, hotherReader]
      | ok otherReader =>
          rw [hreader, hotherReader] at h
          cases h
  | ok reader =>
      cases hotherReader : format.rowReader other with
      | error e =>
          rw [hreader, hotherReader] at h
          cases h
      | ok otherReader =>
          rw [hreader, hotherReader] at h
          have hrows : reader.rows = otherReader.rows := Except.ok.inj h
          obtain ⟨after, hafter, hread⟩ := readTransactions_eq_decodeRows hreader hsource
          obtain ⟨otherAfter, hotherAfter, hotherRead⟩ :=
            readTransactions_eq_decodeRows hotherReader hother
          have hsame : after.rows = otherAfter.rows := by rw [hafter, hotherAfter, hrows]
          have hcomplete : after.rows.failure? = none := by rw [hafter]
          rw [hread, hotherRead, decodeRows_congr hsame hcomplete]

end Format

namespace Conversion

/-! ## Runs -/

section

variable [NationalDecoders]

/-- Nothing but the rows of a source goes into a run. -/
theorem run_congr (c : Conversion) {source other : Source} (hsource : source.NeverFails)
    (hother : other.NeverFails) (h : c.format.readRows source = c.format.readRows other)
    (output log : Sink) : c.run source output log = c.run other output log := by
  have hstatement : c.statement source = c.statement other := by
    unfold statement
    rw [Format.readTransactions_congr hsource hother h]
  unfold run
  rw [hstatement]

/-- **A conversion sees the bytes of its source, and how much of a mark the first read brings.**
Sources that deliver the same bytes without a failure have the same rows on the same lines, and the
conversion has the same result, output and log, unless these bytes, as UTF-8, begin with a byte
order mark of which the first reads bring different parts.  Without an encoding, every input that
begins with a mark can be delivered in two ways that give different rows. -/
theorem run_eq_of_bytes (c : Conversion) {dialect : Format.Dialect}
    (hdialect : c.format.dialect = .ok dialect) :
    (∀ source other : Source, source.NeverFails → other.NeverFails → source.bytes = other.bytes →
      (utf8Mark <+: dialect.utf8Bytes source.bytes →
        (dialect.utf8Source source).markRead = (dialect.utf8Source other).markRead) →
      c.format.readRows source = c.format.readRows other ∧
        ∀ output log, c.run source output log = c.run other output log) ∧
    (dialect.encoding? = none → ∀ bytes, utf8Mark <+: bytes →
      ∃ source other : Source, source.NeverFails ∧ other.NeverFails ∧ source.bytes = bytes ∧
        other.bytes = bytes ∧ c.format.readRows source ≠ c.format.readRows other) := by
  refine ⟨fun source other hsource hother hbytes hmark => ?_, fun hencoding bytes hmark => ?_⟩
  · have hrows := Format.readRows_congr hdialect hsource hother hbytes hmark
    exact ⟨hrows, run_congr c hsource hother hrows⟩
  · exact Format.exists_readRows_ne hdialect hencoding hmark

end

section

attribute [local instance] NationalDecoders.asciiOnly

/-- A quoted line end that is cut after the carriage return, and the ways to cut a lone mark. -/
theorem run_eq_of_bytes_exampleFormat :
    let c : Conversion := ⟨.exampleFormat, .default, Ofx.defaultAccountType⟩
    let dialect : Format.Dialect := ⟨0x3b, none⟩
    let whole : Source := [.bytes 0x22 [0x0d, 0x0a, 0x22, 0x3b, 0x0d, 0x0a]]
    let parts : Source := [.bytes 0x22 [0x0d], .bytes 0x0a [0x22, 0x3b, 0x0d], .bytes 0x0a []]
    c.format.dialect = .ok dialect ∧ whole.NeverFails ∧ parts.NeverFails ∧
      whole.bytes = parts.bytes ∧ ¬ utf8Mark <+: dialect.utf8Bytes whole.bytes ∧
      c.format.readRows whole = c.format.readRows parts ∧
      ∃ source other : Source, source.bytes = utf8Mark ∧ other.bytes = utf8Mark ∧
        c.format.readRows source ≠ c.format.readRows other := by
  intro c dialect whole parts
  have hdialect : c.format.dialect = .ok dialect := Format.dialect_exampleFormat
  have hwhole : whole.NeverFails := by simp [Source.NeverFails, whole]
  have hparts : parts.NeverFails := by simp [Source.NeverFails, parts]
  have hunmarked : ¬ utf8Mark <+: dialect.utf8Bytes whole.bytes := by decide
  obtain ⟨hsame, hdiffer⟩ := run_eq_of_bytes c hdialect
  obtain ⟨source, other, _, _, hsource, hother, hne⟩ :=
    hdiffer rfl utf8Mark (List.prefix_refl _)
  exact ⟨hdialect, hwhole, hparts, rfl, hunmarked,
    (hsame whole parts hwhole hparts rfl fun hmark => absurd hmark hunmarked).1,
    source, other, hsource, hother, hne⟩

end

/-! ## A statement that is lost -/

section

variable [NationalDecoders]

/-- A source that delivers nothing has no rows. -/
theorem rows_of_nil {c : Conversion} {reader : RowReader} (h : c.format.rowReader [] = .ok reader) :
    reader.rows.rows = [] := by
  have hnever : Source.NeverFails [] := by simp [Source.NeverFails]
  unfold Format.rowReader at h
  split at h
  · cases h
  · rename_i dialect _
    cases h
    have hbytes : (dialect.utf8Source []).bytes = [] := by
      rw [dialect.bytes_utf8Source hnever]
      exact dialect.utf8Bytes_nil
    rw [Format.Dialect.rowReader, RowReader.rows_ofSource_of_unmarked _
      (dialect.neverFails_utf8Source hnever) (by rw [hbytes]; decide), hbytes]
    rfl

/-- The statement of a source that delivers nothing has no transactions. -/
theorem statement_nil {c : Conversion} {reader : RowReader}
    (h : c.format.rowReader [] = .ok reader) :
    c.statement [] = .ok ⟨c.format.currency, c.payer, []⟩ := by
  have hrows : List.Forall₂ c.format.Decodes (reader.rows.rows.drop 1) [] := by
    rw [rows_of_nil h]
    exact .nil
  exact statement_of_forall₂ h (by simp [Source.NeverFails]) hrows

/-- The example's statement of an input with one row after the header. -/
theorem result_of_row {source : Source} (hsource : source.NeverFails) {row : RawRow}
    {transaction : Transaction}
    (hrows : (RowReader.ofSource 0x3b source).rows.rows.drop 1 = [row])
    (hrow : Format.exampleFormat.Decodes row transaction) :
    ((⟨.exampleFormat, .default, Ofx.defaultAccountType⟩ : Conversion).run source .unlimited
      .unlimited).result = .ok ⟨"NOK", .default, [transaction]⟩ := by
  let c : Conversion := ⟨.exampleFormat, .default, Ofx.defaultAccountType⟩
  have hdecodes : List.Forall₂ c.format.Decodes
      ((RowReader.ofSource 0x3b source).rows.rows.drop 1) [transaction] := by
    rw [hrows]
    exact .cons hrow .nil
  rw [result_run_of_accepts (c.accepts_unlimited source),
    statement_of_forall₂ (Format.rowReader_exampleFormat source) hsource hdecodes]
  rfl

/-- The example's statement of an input with a row of twelve and a half after the header. -/
theorem result_of_full_row {source : Source} (hsource : source.NeverFails) (line : Nat)
    (hrows : (RowReader.ofSource 0x3b source).rows.rows.drop 1 =
      [⟨line, ["01.02.2024", "x", "kiosk", "", "12.5"].map fun text =>
        Utf8.encode text.toList⟩]) :
    ((⟨.exampleFormat, .default, Ofx.defaultAccountType⟩ : Conversion).run source .unlimited
      .unlimited).result = .ok ⟨"NOK", .default, [⟨⟨0x4029000000000000⟩,
        some (.ofDate ⟨2024, 2, 1, by decide, by decide, by decide⟩), none, "kiosk"⟩]⟩ := by
  have hread : Format.exampleFormat.decode
      (.ofBytes (["01.02.2024", "x", "kiosk", "", "12.5"].map fun text =>
        Utf8.encode text.toList)) =
        .ok ⟨⟨0x4029000000000000⟩,
          some (.ofDate ⟨2024, 2, 1, by decide, by decide, by decide⟩), none, "kiosk"⟩ := by
    decide +kernel
  exact result_of_row hsource hrows hread

end

attribute [local instance] NationalDecoders.asciiOnly

/-- The same bytes in one delivery, and with the mark in a delivery of its own: the one statement
has a transaction, and the other has none. -/
theorem run_of_cut_mark :
    let c : Conversion := ⟨.exampleFormat, .default, Ofx.defaultAccountType⟩
    let text := Utf8.encode "\n01.02.2024;x;kiosk;;12.5\n".toList
    let whole : Source := [.bytes 0xef (0xbb :: 0xbf :: 0x68 :: text)]
    let cut : Source := [.bytes 0xef [0xbb, 0xbf], .bytes 0x68 text]
    let transaction : Transaction :=
      ⟨⟨0x4029000000000000⟩, some (.ofDate ⟨2024, 2, 1, by decide, by decide, by decide⟩), none,
        "kiosk"⟩
    whole.NeverFails ∧ cut.NeverFails ∧ whole.bytes = cut.bytes ∧
      (c.run whole .unlimited .unlimited).result = .ok ⟨"NOK", .default, [transaction]⟩ ∧
      (c.run cut .unlimited .unlimited).result = .ok ⟨"NOK", .default, []⟩ := by
  intro c text whole cut transaction
  have hwhole : whole.NeverFails := by simp [Source.NeverFails, whole]
  have hcut : cut.NeverFails := by simp [Source.NeverFails, cut]
  refine ⟨hwhole, hcut, rfl, ?_, ?_⟩
  · have hrows : (RowReader.ofSource 0x3b whole).rows.rows.drop 1 =
        [⟨2,
          ["01.02.2024", "x", "kiosk", "", "12.5"].map fun text => Utf8.encode text.toList⟩] := by
      rw [RowReader.rows_ofSource]
      decide
    exact result_of_full_row hwhole 2 hrows
  · have hrows : (RowReader.ofSource 0x3b cut).rows.rows.drop 1 = [] := by
      rw [RowReader.rows_ofSource]
      decide
    rw [result_run_of_accepts (c.accepts_unlimited cut),
      statement_of_forall₂ (Format.rowReader_exampleFormat cut) hcut (by rw [hrows]; exact .nil)]
    rfl

end Conversion

end BankStatement
