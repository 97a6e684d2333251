import BankStatement.Proofs.Statement.Dates

/-!
# The written period

A document gives the first and the last posting date of its statement, and the date of each
transaction.  The dates are texts, and a reader compares them as texts, which is sound as long as
years have four digits (`Moment.IsTimestamp.le`).

The main statement is `Ofx.postedRange_covers`.
-/

namespace BankStatement.Ofx

/-- **The period covers the transactions.**  Whatever a statement has in it:

* It has no period exactly when none of its transactions has a posting date.
* Both ends of a period are posting dates, and every posting date lies between them.
* Statements with the same transactions in any order have the same period.
* A document has one first date and one last date, which is also the time of the server and the date
  of the balance.  When the posting dates have years of four digits, each of them is written as a
  text that lies between these two in the order of texts.

The values are those of the lines of the document, which can be read off its text when the account
type has no markup. -/
theorem postedRange_covers (accountType : String) (statement : Statement) :
    (statement.postedRange = none ↔
      ∀ transaction ∈ statement.transactions, transaction.posted = none) ∧
    (∀ first last, statement.postedRange = some (first, last) →
      (∃ transaction ∈ statement.transactions, transaction.posted = some first) ∧
      (∃ transaction ∈ statement.transactions, transaction.posted = some last) ∧
      ∀ transaction ∈ statement.transactions, ∀ moment, transaction.posted = some moment →
        first ≤ moment ∧ moment ≤ last) ∧
    (∀ other : Statement, other.transactions.Perm statement.transactions →
      other.postedRange = statement.postedRange) ∧
    (PlainText accountType.toList →
      linesOf (render accountType statement) = lines accountType statement) ∧
    ∃ start last,
      valuesOf "DTSTART" (lines accountType statement) = [start] ∧
      (∀ tag ∈ ["DTSERVER", "DTEND", "DTASOF"],
        valuesOf tag (lines accountType statement) = [last]) ∧
      ((∀ transaction ∈ statement.transactions, ∀ moment, transaction.posted = some moment →
          moment.date.FourDigitYear) →
        ∀ (index : Nat) (transaction : Transaction) (moment : Moment),
          statement.transactions[index]? = some transaction → transaction.posted = some moment →
          ∃ text, (valuesOf "DTPOSTED" (lines accountType statement))[index]? = some text ∧
            moment.IsTimestamp text.toList ∧ start ≤ text ∧ text ≤ last) := by
  refine ⟨Statement.postedRange_eq_none_iff, ?_, fun _ => Statement.postedRange_perm,
    linesOf_render statement, _, _, valuesOf_firstDate accountType statement,
    valuesOf_lastDate accountType statement, ?_⟩
  · intro first last hrange
    obtain ⟨⟨hfirst, hlast⟩, hall⟩ := Statement.postedRange_eq_some_iff.mp hrange
    refine ⟨Statement.mem_postingDates.mp hfirst, Statement.mem_postingDates.mp hlast, ?_⟩
    intro transaction htransaction moment hmoment
    exact hall moment (Statement.mem_postingDates.mpr ⟨transaction, htransaction, hmoment⟩)
  · intro hyears index transaction moment htransaction hmoment
    have hfour : ∀ other ∈ statement.postingDates, other.date.FourDigitYear := by
      intro other hother
      obtain ⟨source, hsource, hposted⟩ := Statement.mem_postingDates.mp hother
      exact hyears source hsource other hposted
    have hmem : moment ∈ statement.postingDates :=
      Statement.mem_postingDates.mpr ⟨transaction, List.mem_of_getElem? htransaction, hmoment⟩
    obtain ⟨first, hfirst, last, hlast, hrange, hlower, hupper⟩ :=
      Statement.exists_postedRange_of_mem hmem
    rw [hrange]
    refine ⟨dateText (some moment), ?_, ?_, ?_, ?_⟩
    · rw [valuesOf_postedDates, List.getElem?_map, htransaction, Option.map_some, hmoment]
    · exact (isTimestamp_dateText (some moment)).1.mpr (hfour moment hmem)
    · exact dateText_le_dateText (hfour first hfirst) (hfour moment hmem) hlower
    · exact dateText_le_dateText (hfour moment hmem) (hfour last hlast) hupper

/-- Half a second into the leap second at the end of 2016. -/
def leapSecond : Moment where
  date := (Date.ofDay? 2016 12 31).get (by decide)
  time := (TimeOfDay.ofParts? 23 59 59 1500000000).get (by decide)

/-- A statement over that leap second, in which a transaction has no date. -/
def aroundLeapSecond : Statement where
  currency := "SEK"
  payer := .default
  transactions :=
    [⟨.zero false, (Date.ofDay? 2017 1 1).map .ofDate, none, "lift pass"⟩,
     ⟨.zero false, none, none, "no receipt"⟩,
     ⟨.zero false, some leapSecond, none, "fireworks"⟩]

/-- The leap second is the start of the period, although it is written as second 60. -/
theorem postedRange_covers_leapSecond :
    aroundLeapSecond.postedRange.map (·.1) = some leapSecond ∧
    ∃ start last, valuesOf "DTSTART" (lines "CHECKING" aroundLeapSecond) = [start] ∧
      valuesOf "DTEND" (lines "CHECKING" aroundLeapSecond) = [last] ∧
      (valuesOf "DTPOSTED" (lines "CHECKING" aroundLeapSecond))[2]? = some "20161231235960" ∧
      start ≤ "20161231235960" ∧ "20161231235960" ≤ last := by
  have hyears : ∀ transaction ∈ aroundLeapSecond.transactions, ∀ moment,
      transaction.posted = some moment → moment.date.FourDigitYear := by
    decide
  obtain ⟨-, -, -, -, start, last, hstart, hlast, hwithin⟩ :=
    postedRange_covers "CHECKING" aroundLeapSecond
  obtain ⟨text, htext, -, hlower, hupper⟩ := hwithin hyears 2 _ leapSecond rfl rfl
  obtain rfl : text = "20161231235960" := by
    have hdigits : leapSecond.digitsText = "20161231235960".toList := by
      show Moment.yearText 2016 ++ Moment.two 12 ++ Moment.two 31 ++ Moment.two 23 ++
        Moment.two 59 ++ Moment.two 60 = _
      simp [Moment.yearText, Moment.two, Decimal.paddedDigits, Decimal.digits, Decimal.digitChar]
    rw [valuesOf_postedDates] at htext
    have hwritten : String.ofList leapSecond.digitsText = text := Option.some.inj htext
    rw [← hwritten, hdigits, String.ofList_toList]
  exact ⟨by decide, start, last, hstart, hlast "DTEND" (by decide), htext, hlower, hupper⟩

end BankStatement.Ofx
