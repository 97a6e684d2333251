import BankStatement.Proofs.Conversion.WrittenAmounts
import BankStatement.Proofs.Statement.Dates

/-!
# The dates and ids that a conversion writes

A statement that was written in full has fourteen digits for each date and eight of them in each id,
as long as the years have four digits (`Conversion.isTimestamp_dates`).  Nothing before that keeps
other years away: a pattern with `%Y` reads a year with a sign, of more than four digits or below
zero, also in formats of loaded catalogs, and then the text of the date is longer, and the eight
characters that are cut off it for the id are not the day (`Conversion.dates_of_signedYear`).
-/

namespace BankStatement.Conversion

open Ofx (shown)

/-- **Which dates are written in fourteen digits.**  Whatever the format, the source and the output
are, a conversion that succeeds writes the lines of its statement, and these are the lines of the
text when the account type has no markup.

* All dates among them are fourteen digits, `YYYYMMDDHHMMSS`, exactly when all posting and user
  dates of the statement have years of four digits.
* The posting date of each transaction is written in fourteen digits, and its id is these eight of
  the day, a dash and its number, exactly when the year of its posting date has four digits.  Year 1
  stands in for a missing date. -/
theorem isTimestamp_dates [NationalDecoders] (c : Conversion) (source : Source) (room : Option Nat)
    (flushFails : Bool) {statement : Statement}
    (h : (c.run source (.ofRoom room flushFails) .unlimited).result = .ok statement) :
    let lines := Ofx.lines c.accountType statement
    (c.run source (.ofRoom room flushFails) .unlimited).output.written =
        Utf8.encode (String.join (lines.map (· ++ "\n"))).toList ∧
      (PlainText c.accountType.toList →
        Ofx.linesOf (String.join (lines.map (· ++ "\n"))) = lines) ∧
      ((∀ tag ∈ Ofx.dateTags, ∀ value ∈ Ofx.valuesOf tag lines,
          ∃ moment : Moment, moment.IsTimestamp value.toList) ↔
        ∀ moment, statement.HasDate moment → moment.date.FourDigitYear) ∧
      ∀ index transaction, statement.transactions[index]? = some transaction →
        ∃ date id, (Ofx.valuesOf "DTPOSTED" lines)[index]? = some date ∧
          (Ofx.valuesOf "FITID" lines)[index]? = some id ∧
          ((shown transaction.posted).IsTimestamp date.toList ↔
            (shown transaction.posted).date.FourDigitYear) ∧
          (Ofx.IsId (shown transaction.posted) (index + 1) id ↔
            (shown transaction.posted).date.FourDigitYear) := by
  intro lines
  refine ⟨(written_of_run h).2, Ofx.linesOf_render statement,
    Ofx.forall_isTimestamp_iff c.accountType statement, ?_⟩
  intro index transaction htransaction
  refine ⟨Ofx.dateText transaction.posted, Ofx.transactionId transaction (index + 1), ?_, ?_,
    (Ofx.isTimestamp_dateText transaction.posted).1, Ofx.isId_transactionId transaction (index + 1)⟩
  · rw [Ofx.valuesOf_postedDates, List.getElem?_map, htransaction]
    rfl
  · rw [Ofx.valuesOf_ids, List.getElem?_map, List.getElem?_zipIdx, htransaction]
    simp [Nat.add_comm]

attribute [local instance] NationalDecoders.asciiOnly

/-- A posting date of four digits, and a missing user date. -/
theorem isTimestamp_dates_exampleFormat :
    let c : Conversion := ⟨.exampleFormat, .default, Ofx.defaultAccountType⟩
    let source : Source := [.bytes 0x68 (Utf8.encode "\n01.02.2024;x;kiosk;;12.5\n".toList)]
    let posted : Moment := .ofDate ⟨2024, 2, 1, by decide, by decide, by decide⟩
    let transaction : Transaction := ⟨⟨0x4029000000000000⟩, some posted, none, "kiosk"⟩
    let statement : Statement := ⟨"NOK", .default, [transaction]⟩
    (c.run source .unlimited .unlimited).result = .ok statement ∧
      (∀ tag ∈ Ofx.dateTags, ∀ value ∈ Ofx.valuesOf tag (Ofx.lines c.accountType statement),
        ∃ moment : Moment, moment.IsTimestamp value.toList) ∧
      ∃ id, (Ofx.valuesOf "FITID" (Ofx.lines c.accountType statement))[0]? = some id ∧
        Ofx.IsId posted 1 id := by
  intro c source posted transaction statement
  have hresult : (c.run source .unlimited .unlimited).result = .ok statement := result_of_kiosk
  have hyear : posted.date.FourDigitYear := by decide
  obtain ⟨_, _, hdates, hids⟩ := isTimestamp_dates c source none false hresult
  refine ⟨hresult, hdates.mpr ?_, ?_⟩
  · rintro moment ⟨other, hother, hmoment⟩
    obtain rfl := List.mem_singleton.mp hother
    rcases hmoment with hposted | huser
    · rwa [← Option.some.inj hposted]
    · cases huser
  · obtain ⟨_, id, _, hid, _, hday⟩ := hids 0 _ rfl
    exact ⟨id, hid, hday.mpr hyear⟩

/-- A format of a loaded catalog, and a row with a year of five digits and a sign: the conversion
succeeds, no date that it writes is one of fourteen digits, and the id lacks the second digit of the
day. -/
theorem dates_of_signedYear :
    let catalog : Catalog := ⟨[.exampleFormat]⟩
    let c : Conversion := ⟨.exampleFormat, .default, Ofx.defaultAccountType⟩
    let source : Source := [.bytes 0x68 (Utf8.encode "\n01.02.+12024;x;kiosk;;12.5\n".toList)]
    let posted : Moment := .ofDate ⟨12024, 2, 1, by decide, by decide, by decide⟩
    let transaction : Transaction := ⟨⟨0x4029000000000000⟩, some posted, none, "kiosk"⟩
    let statement : Statement := ⟨"NOK", .default, [transaction]⟩
    Catalog.ofText catalog.toText = .ok catalog ∧ catalog.find "spv-kreditt" = .ok c.format ∧
      (c.run source .unlimited .unlimited).result = .ok statement ∧
      Ofx.valuesOf "DTPOSTED" (Ofx.lines c.accountType statement) = ["+120240201000000"] ∧
      (¬ ∃ moment : Moment, moment.IsTimestamp "+120240201000000".toList) ∧
      Ofx.valuesOf "FITID" (Ofx.lines c.accountType statement) = ["+1202402-1"] ∧
      ¬ Ofx.IsId posted 1 "+1202402-1" := by
  intro catalog c source posted transaction statement
  have hsource : source.NeverFails := by simp [Source.NeverFails, source]
  have hrows : (RowReader.ofSource 0x3b source).rows.rows.drop 1 =
      [⟨2,
        ["01.02.+12024", "x", "kiosk", "", "12.5"].map fun text => Utf8.encode text.toList⟩] := by
    rw [RowReader.rows_ofSource]
    decide
  have hyear : ¬ posted.date.FourDigitYear := by decide
  have hdate : Ofx.dateText (some posted) = "+120240201000000" := by decide +kernel
  have hid : Ofx.transactionId transaction 1 = "+1202402-1" := by decide +kernel
  refine ⟨Catalog.ofText_of_storable Catalog.storable_exampleFormat, rfl,
    result_of_row hsource hrows (by unfold Format.Decodes; decide +kernel), ?_, ?_, ?_, ?_⟩
  · rw [Ofx.valuesOf_postedDates, ← hdate]
    rfl
  · rw [← hdate]
    exact fun h => hyear ((Ofx.isTimestamp_dateText (some posted)).2.mp h)
  · rw [Ofx.valuesOf_ids, ← hid]
    rfl
  · rw [← hid]
    exact fun h => hyear ((Ofx.isId_transactionId transaction 1).mp h)

end BankStatement.Conversion
