import BankStatement.Proofs.Conversion.Atomicity
import BankStatement.Proofs.Conversion.Deliveries
import BankStatement.Proofs.Format.Agreement

/-!
# What a conversion does not look at

Two conversions that agree in the settings that are used, on inputs whose rows agree in the columns
that are read, do the same (`Conversion.run_eq_of_sameUse`).  The header row may be anything, and so
may the fields in all other columns, whether they are UTF-8 or not.

## Strategy

A conversion is a loop over a reader of rows, which may run into a failure of its source.  What the
loop gives is a function of the rows that the reader still gives and of that failure
(`Format.decodeRows_eq_decodeAll`), and `Format.decodeAll` recurses over a list, so that two runs
can be compared row by row (`SameUse.decodeAll`).
-/

namespace BankStatement

namespace Format

/-! ## Transactions as a function of the rows -/

/-- The transactions of rows after which the input ends or fails. -/
def decodeAll (format : Format) (failure? : Option String) :
    List RawRow → Except ConversionError (List Transaction)
  | [] =>
      match failure? with
      | none => .ok []
      | some message => .error (.read message)
  | row :: rest =>
      match format.decode (.ofBytes row.fields) with
      | .error e => .error (.malformedRow row.line e)
      | .ok transaction => (decodeAll format failure? rest).map (transaction :: ·)

theorem decodeAll_cons (format : Format) (failure? : Option String) (row : RawRow)
    (rest : List RawRow) :
    format.decodeAll failure? (row :: rest) =
      match format.decode (.ofBytes row.fields) with
      | .error e => .error (.malformedRow row.line e)
      | .ok transaction => (format.decodeAll failure? rest).map (transaction :: ·) :=
  rfl

theorem decodeRows_eq_decodeAll (format : Format) (reader : RowReader)
    (sofar : List Transaction) :
    format.decodeRows reader sofar =
      (format.decodeAll reader.rows.failure? reader.rows.rows).map (sofar.reverse ++ ·) := by
  fun_induction decodeRows format reader sofar with
  | case1 reader sofar message _ hnext =>
      rw [RowReader.rows_of_next_error hnext]
      rfl
  | case2 reader sofar _ hnext =>
      rw [RowReader.rows_of_next_none hnext]
      simp [decodeAll, Except.map]
  | case3 reader sofar row after hnext e hdecode =>
      rw [RowReader.rows_of_next_some hnext]
      simp only [RowReading.prepend]
      rw [decodeAll_cons, hdecode]
      rfl
  | case4 reader sofar row after hnext transaction hdecode ih =>
      rw [RowReader.rows_of_next_some hnext, ih]
      simp only [RowReading.prepend]
      rw [decodeAll_cons, hdecode]
      cases format.decodeAll after.rows.failure? after.rows.rows with
      | error e => rfl
      | ok transactions => simp [Except.map]

/-- The first row is passed over, and the others are decoded up to the first that is malformed. -/
theorem readTransactions_eq_decodeAll [NationalDecoders] {format : Format} {source : Source}
    {reading : RowReading} (h : format.readRows source = .ok reading) :
    format.readTransactions source =
      format.decodeAll reading.failure? (reading.rows.drop headerRows) := by
  unfold readRows at h
  unfold readTransactions
  cases hreader : format.rowReader source with
  | error e =>
      rw [hreader] at h
      cases h
  | ok reader =>
      rw [hreader] at h
      obtain rfl : reader.rows = reading := Except.ok.inj h
      have hskip := reader.rows_skip headerRows
      cases hafter : reader.skip headerRows with
      | error message =>
          rw [hafter] at hskip
          rw [hskip.1, hskip.2]
          simp only [hafter]
          rfl
      | ok after =>
          rw [hafter] at hskip
          simp only [hafter]
          rw [decodeRows_eq_decodeAll, hskip]
          cases format.decodeAll reader.rows.failure? (reader.rows.rows.drop headerRows) <;> rfl

/-! ## Two formats, two inputs -/

/-- Whether two rows stand on the same line and have the same fields in some columns. -/
def SameRow (columns : List UInt64) (row other : RawRow) : Prop :=
  row.line = other.line ∧ SameFields columns row.fields other.fields

namespace SameUse

variable {format other : Format}

theorem decodeAll (h : format.SameUse other) (failure? : Option String) {rows others : List RawRow}
    (hrows : List.Forall₂ (SameRow (Rule.columnsOf format.readRules)) rows others) :
    format.decodeAll failure? rows = other.decodeAll failure? others := by
  induction hrows with
  | nil => rfl
  | cons hrow _ ih =>
      obtain ⟨hline, hfields⟩ := hrow
      rw [decodeAll_cons, decodeAll_cons, h.decode hfields.agreesOn, hline, ih]

/-- The rows of a source do not depend on the settings that are not used. -/
theorem readRows [NationalDecoders] (h : format.SameUse other) {source : Source}
    {reading : RowReading} (hread : format.readRows source = .ok reading) :
    other.readRows source = .ok reading := by
  cases hdialect : format.dialect with
  | error fault =>
      unfold Format.readRows rowReader at hread
      rw [hdialect] at hread
      cases hread
  | ok dialect =>
      rw [readRows_of_dialect hdialect] at hread
      rw [readRows_of_dialect (h.dialect.symm.trans hdialect), hread]

end SameUse

end Format

namespace Conversion

open Format (SameRow)

section

variable [NationalDecoders]

theorem run_eq_of_statement {c d : Conversion} {source other : Source}
    (hstatement : c.statement source = d.statement other) (haccount : c.accountType = d.accountType)
    (output log : Sink) : c.run source output log = d.run other output log := by
  cases hd : d.statement other with
  | error e => rw [run_of_error (hstatement.trans hd), run_of_error hd]
  | ok statement =>
      have hrendering : c.rendering statement = d.rendering statement := by
        unfold rendering
        rw [haccount]
      cases hwrite : output.write (d.rendering statement) with
      | mk written after =>
          have hsame : output.write (c.rendering statement) = (written, after) := by
            rw [hrendering, hwrite]
          cases written with
          | error reason =>
              rw [run_of_write_error (hstatement.trans hd) hsame, run_of_write_error hd hwrite]
          | ok _ => rw [run_of_write_ok (hstatement.trans hd) hsame, run_of_write_ok hd hwrite]

/-- **What is not read has no influence.**  Take two conversions for the same payer and account
type, whose formats agree in everything that is looked at (`Format.SameUse`).

* Rows with the same fields in the columns that the four rules refer to, which are equally long or
  have all these columns, give the same transaction or the same error.
* Both split every source into the same rows.
* When the rows of two inputs stand on the same lines and have the same fields in those columns, the
  first row of each excepted, and the inputs fail in the same way if they do, the conversions have
  the same result, output and log. -/
theorem run_eq_of_sameUse {c d : Conversion} (huse : c.format.SameUse d.format)
    (hpayer : c.payer = d.payer) (haccount : c.accountType = d.accountType) :
    let columns := Rule.columnsOf c.format.readRules
    (∀ fields others, SameFields columns fields others →
      c.format.decode (.ofBytes fields) = d.format.decode (.ofBytes others)) ∧
    (∀ source reading, c.format.readRows source = .ok reading →
      d.format.readRows source = .ok reading) ∧
    ∀ source other reading otherReading, c.format.readRows source = .ok reading →
      d.format.readRows other = .ok otherReading → reading.failure? = otherReading.failure? →
      List.Forall₂ (SameRow columns) (reading.rows.drop headerRows)
        (otherReading.rows.drop headerRows) →
      ∀ output log, c.run source output log = d.run other output log := by
  refine ⟨fun fields others hfields => huse.decode hfields.agreesOn,
    fun source reading hread => huse.readRows hread, ?_⟩
  intro source other reading otherReading hreading hotherReading hfailure hrows output log
  have htransactions :
      c.format.readTransactions source = d.format.readTransactions other := by
    rw [Format.readTransactions_eq_decodeAll hreading,
      Format.readTransactions_eq_decodeAll hotherReading, ← hfailure,
      huse.decodeAll reading.failure? hrows]
  have hstatement : c.statement source = d.statement other := by
    unfold statement
    rw [htransactions, huse.currency, hpayer]
  exact run_eq_of_statement hstatement haccount output log

end

attribute [local instance] NationalDecoders.asciiOnly

/-- A header and a sixth field that are not UTF-8, against a short header and no sixth field, for a
format with other values of the settings that are not used. -/
theorem run_eq_of_sameUse_exampleFormat :
    let c : Conversion := ⟨.exampleFormat, .default, Ofx.defaultAccountType⟩
    let d : Conversion := ⟨{ Format.exampleFormat with
        name := "other"
        skipHeader := 7
        skipFooter := 3
        comma := ";\""
        fields := { Format.exampleFormat.fields with trntype := .sum [], ftid := .ofColumn 9 } },
      .default, Ofx.defaultAccountType⟩
    let row := Utf8.encode "\n01.02.2024;x;kiosk;;12.5".toList
    let source : Source := [.bytes 0xff (row ++ [0x3b, 0xff])]
    let other : Source := [.bytes 0x68 row]
    c.format.SameUse d.format ∧ c.format.readRows source ≠ c.format.readRows other ∧
      c.run source .unlimited .unlimited = d.run other .unlimited .unlimited := by
  intro c d row source other
  have huse : c.format.SameUse d.format := ⟨rfl, by decide, rfl, rfl, rfl, rfl, rfl⟩
  have hdialect : c.format.dialect = .ok ⟨0x3b, none⟩ := Format.dialect_exampleFormat
  let fields := ["01.02.2024", "x", "kiosk", "", "12.5"].map fun text => Utf8.encode text.toList
  have hreading : c.format.readRows source =
      .ok ⟨[⟨1, [[0xff]]⟩, ⟨2, fields ++ [[0xff]]⟩], none⟩ := by
    rw [Format.readRows_of_dialect hdialect]
    apply congrArg Except.ok
    change (RowReader.ofSource 0x3b source).rows = _
    rw [RowReader.rows_ofSource]
    decide
  have hotherReading : c.format.readRows other = .ok ⟨[⟨1, [[0x68]]⟩, ⟨2, fields⟩], none⟩ := by
    rw [Format.readRows_of_dialect hdialect]
    apply congrArg Except.ok
    change (RowReader.ofSource 0x3b other).rows = _
    rw [RowReader.rows_ofSource]
    decide
  obtain ⟨_, hsplit, hrun⟩ := run_eq_of_sameUse (c := c) (d := d) huse rfl rfl
  have hcolumns : Rule.columnsOf c.format.readRules = [0, 1, 3, 4, 2] := rfl
  have hfields : SameFields (Rule.columnsOf c.format.readRules) (fields ++ [[0xff]]) fields := by
    rw [hcolumns]
    exact sameFields_append (by simp [fields]) _
  refine ⟨huse, ?_, ?_⟩
  · rw [hreading, hotherReading]
    intro hsame
    exact absurd (Except.ok.inj hsame) (by decide)
  · exact hrun source other _ _ hreading (hsplit other _ hotherReading) rfl
      (.cons ⟨rfl, hfields⟩ .nil) .unlimited .unlimited

end Conversion

end BankStatement
