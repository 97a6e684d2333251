import BankStatement.Proofs.Calendar.Written
import BankStatement.Proofs.Statement.PostingDates
import BankStatement.Proofs.Statement.Values

/-!
# The dates of a document

A document has dates of the server, of the period, of the transactions and of the balance, and the
ids of transactions begin with dates.  A date whose year has not four digits is no date as it is
written (`Ofx.isTimestamp_dateText`), and its first eight characters are not the day
(`Ofx.isId_transactionId`).  The dates of the server, of the period and of the balance are among the
posting dates (`Statement.hasDate_postedRange`), so only the dates of the transactions matter
(`Ofx.forall_isTimestamp_iff`).
-/

namespace BankStatement

/-! ## Dates and ids of a document -/

namespace Ofx

/-- The moment that stands in for a missing date: the first midnight of year 1. -/
def zeroMoment : Moment :=
  .ofDate ⟨1, 1, 1, by decide, by decide, by decide⟩

/-- The moment that is written for a date. -/
def shown (date : Option Moment) : Moment :=
  date.getD zeroMoment

theorem toList_dateText (date : Option Moment) :
    (dateText date).toList = (shown date).digitsText := by
  cases date with
  | none =>
      simp [dateText, zeroDate, shown, zeroMoment, Moment.ofDate, Moment.digitsText,
        Moment.yearText, Moment.two, TimeOfDay.midnight, TimeOfDay.shownSecond,
        Decimal.paddedDigits, Decimal.digits, Decimal.digitChar]
  | some moment => exact String.toList_ofList

theorem fourDigitYear_zeroMoment : zeroMoment.date.FourDigitYear := by
  decide

/-- A date is written in fourteen digits just when its year has four, and then these are its own. -/
theorem isTimestamp_dateText (date : Option Moment) :
    ((shown date).IsTimestamp (dateText date).toList ↔ (shown date).date.FourDigitYear) ∧
      ((∃ moment : Moment, moment.IsTimestamp (dateText date).toList) ↔
        (shown date).date.FourDigitYear) := by
  rw [toList_dateText]
  exact ⟨⟨Moment.fourDigitYear_of_isTimestamp, Moment.isTimestamp_digitsText⟩,
    fun ⟨_, h⟩ => Moment.fourDigitYear_of_isTimestamp h,
    fun h => ⟨_, Moment.isTimestamp_digitsText h⟩⟩

/-- Moments in years of four digits are written in their order. -/
theorem dateText_le_dateText {first second : Moment} (hfirst : first.date.FourDigitYear)
    (hsecond : second.date.FourDigitYear) (h : first ≤ second) :
    dateText (some first) ≤ dateText (some second) := by
  rw [String.le_iff_toList_le, toList_dateText, toList_dateText]
  have hfirstText := Moment.isTimestamp_digitsText hfirst
  have hsecondText := Moment.isTimestamp_digitsText hsecond
  exact hfirstText.le hsecondText h

/-- Whether a text is the id of a transaction: a date in eight digits, a dash and the number. -/
def IsId (moment : Moment) (number : Nat) (id : String) : Prop :=
  ∃ day, moment.date.IsEightDigits day ∧ id = String.ofList day ++ "-" ++ toString number

/-- A transaction has such an id just when the year of its posting has four digits. -/
theorem isId_transactionId (transaction : Transaction) (number : Nat) :
    IsId (shown transaction.posted) number (transactionId transaction number) ↔
      (shown transaction.posted).date.FourDigitYear := by
  unfold transactionId
  rw [toList_dateText]
  constructor
  · rintro ⟨day, hday, hid⟩
    refine Decidable.byContradiction fun hyear => ?_
    obtain ⟨sign, rest, htext, hsign⟩ := Moment.exists_sign_of_not_fourDigitYear hyear
    obtain ⟨c, others, rfl, hc⟩ := hday.head
    have hchars := congrArg String.toList hid
    rw [htext] at hchars
    simp only [List.take_succ_cons, String.toList_append, String.toList_ofList, List.cons_append,
      List.cons.injEq] at hchars
    rw [← hchars.1, hsign] at hc
    cases hc
  · intro hyear
    have hday := Moment.isEightDigits_dateText hyear
    refine ⟨_, hday, ?_⟩
    rw [Moment.digitsText_eq, ← hday.length, List.take_left]

end Ofx

/-! ## The dates of a statement -/

namespace Statement

/-- Whether a transaction of the statement was posted or made at a moment. -/
def HasDate (statement : Statement) (moment : Moment) : Prop :=
  ∃ transaction ∈ statement.transactions,
    transaction.posted = some moment ∨ transaction.user = some moment

theorem hasDate_of_mem_postingDates {statement : Statement} {moment : Moment}
    (h : moment ∈ statement.postingDates) : statement.HasDate moment := by
  obtain ⟨transaction, htransaction, hposted⟩ := mem_postingDates.mp h
  exact ⟨transaction, htransaction, .inl hposted⟩

/-- The first and the last posting date are dates of the statement. -/
theorem hasDate_postedRange {statement : Statement} {period : Moment × Moment}
    (h : statement.postedRange = some period) :
    statement.HasDate period.1 ∧ statement.HasDate period.2 := by
  obtain ⟨⟨hfirst, hlast⟩, -⟩ := postedRange_eq_some_iff.mp h
  exact ⟨hasDate_of_mem_postingDates hfirst, hasDate_of_mem_postingDates hlast⟩

end Statement

namespace Ofx

variable {statement : Statement}

/-- A date in a document is one of the statement, or it is missing. -/
theorem exists_date_of_mem (accountType : String) {tag value : String} (htag : tag ∈ dateTags)
    (hvalue : value ∈ valuesOf tag (lines accountType statement)) :
    ∃ date : Option Moment, value = dateText date ∧
      ∀ moment, date = some moment → statement.HasDate moment := by
  have hfirst : ∀ moment, statement.postedRange.map (·.1) = some moment →
      statement.HasDate moment := by
    intro moment hmoment
    obtain ⟨period, hperiod, rfl⟩ := Option.map_eq_some_iff.mp hmoment
    exact (Statement.hasDate_postedRange hperiod).1
  have hlast : ∀ moment, statement.postedRange.map (·.2) = some moment →
      statement.HasDate moment := by
    intro moment hmoment
    obtain ⟨period, hperiod, rfl⟩ := Option.map_eq_some_iff.mp hmoment
    exact (Statement.hasDate_postedRange hperiod).2
  simp only [dateTags, List.mem_cons, List.not_mem_nil, or_false] at htag
  rcases htag with rfl | rfl | rfl | rfl | rfl | rfl
  · rw [valuesOf_lastDate accountType statement _ (by decide)] at hvalue
    exact ⟨_, List.mem_singleton.mp hvalue, hlast⟩
  · rw [valuesOf_firstDate] at hvalue
    exact ⟨_, List.mem_singleton.mp hvalue, hfirst⟩
  · rw [valuesOf_lastDate accountType statement _ (by decide)] at hvalue
    exact ⟨_, List.mem_singleton.mp hvalue, hlast⟩
  · rw [valuesOf_postedDates] at hvalue
    obtain ⟨transaction, htransaction, rfl⟩ := List.mem_map.mp hvalue
    exact ⟨_, rfl, fun moment hmoment => ⟨transaction, htransaction, .inl hmoment⟩⟩
  · rw [valuesOf_userDates] at hvalue
    obtain ⟨moment, hmoment, rfl⟩ := List.mem_map.mp hvalue
    obtain ⟨transaction, htransaction, huser⟩ := List.mem_flatMap.mp hmoment
    refine ⟨_, rfl, fun other hother => ⟨transaction, htransaction, .inr ?_⟩⟩
    rw [← hother]
    exact Option.mem_toList.mp huser
  · rw [valuesOf_lastDate accountType statement _ (by decide)] at hvalue
    exact ⟨_, List.mem_singleton.mp hvalue, hlast⟩

/-- Every date of a statement is in the document. -/
theorem mem_valuesOf_of_hasDate (accountType : String) {moment : Moment}
    (h : statement.HasDate moment) :
    ∃ tag ∈ dateTags, dateText (some moment) ∈ valuesOf tag (lines accountType statement) := by
  obtain ⟨transaction, htransaction, hposted | huser⟩ := h
  · refine ⟨"DTPOSTED", by decide, ?_⟩
    rw [valuesOf_postedDates]
    exact List.mem_map.mpr ⟨transaction, htransaction, by rw [hposted]⟩
  · refine ⟨"DTUSER", by decide, ?_⟩
    rw [valuesOf_userDates]
    exact List.mem_map_of_mem (List.mem_flatMap.mpr ⟨transaction, htransaction, by simp [huser]⟩)

/-- All dates of a document are written in fourteen digits just when the dates of the statement have
years of four digits. -/
theorem forall_isTimestamp_iff (accountType : String) (statement : Statement) :
    (∀ tag ∈ dateTags, ∀ value ∈ valuesOf tag (lines accountType statement),
      ∃ moment : Moment, moment.IsTimestamp value.toList) ↔
    ∀ moment, statement.HasDate moment → moment.date.FourDigitYear := by
  constructor
  · intro h moment hmoment
    obtain ⟨tag, htag, hvalue⟩ := mem_valuesOf_of_hasDate accountType hmoment
    exact (isTimestamp_dateText (some moment)).2.mp (h tag htag _ hvalue)
  · intro h tag htag value hvalue
    obtain ⟨date, rfl, hdate⟩ := exists_date_of_mem accountType htag hvalue
    refine (isTimestamp_dateText date).2.mpr ?_
    cases date with
    | none => exact fourDigitYear_zeroMoment
    | some moment => exact h moment (hdate moment rfl)

end Ofx

end BankStatement
