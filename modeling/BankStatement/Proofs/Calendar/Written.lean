import BankStatement.Proofs.Calendar.Order
import BankStatement.Proofs.Decimal.Width

/-!
# Written dates

A date is written as a run of digits, fourteen of them when its year has four digits.  Any other
year gets a sign and may get more digits, so that the text is no date then
(`Moment.isTimestamp_digitsText`, `Moment.fourDigitYear_of_isTimestamp`).

Moments in years of four digits are in the order of their texts (`Moment.IsTimestamp.le`), since the
numbers that the digits make do not go down from one moment to a later one.  They may stay the same:
fractions of a second are not written.  A leap second is written as second 60, which no other second
of its minute reaches.
-/

namespace BankStatement

/-! ## Days and moments in digits -/

/-- Whether a year has four digits. -/
def Date.FourDigitYear (date : Date) : Prop :=
  0 ≤ date.year ∧ date.year ≤ 9999

instance (date : Date) : Decidable date.FourDigitYear :=
  inferInstanceAs (Decidable (0 ≤ date.year ∧ date.year ≤ 9999))

/-- Whether a text is a date in eight digits: four of the year, two of the month, two of the day. -/
def Date.IsEightDigits (date : Date) (text : List Char) : Prop :=
  ∃ year month day, text = year ++ month ++ day ∧ Decimal.HasWidth 4 date.year year ∧
    Decimal.HasWidth 2 date.month month ∧ Decimal.HasWidth 2 date.day day

/-- Whether a text is a moment in fourteen digits: eight of the date, and two each of the hour, the
minute and the second, which is 60 in a leap second. -/
def Moment.IsTimestamp (m : Moment) (text : List Char) : Prop :=
  ∃ date hour minute second, text = date ++ hour ++ minute ++ second ∧
    m.date.IsEightDigits date ∧ Decimal.HasWidth 2 m.time.hour hour ∧
    Decimal.HasWidth 2 m.time.minute minute ∧ Decimal.HasWidth 2 m.time.shownSecond second

theorem Date.IsEightDigits.length {date : Date} {text : List Char} (h : date.IsEightDigits text) :
    text.length = 8 := by
  obtain ⟨year, month, day, rfl, hyear, hmonth, hday⟩ := h
  rw [List.length_append, List.length_append, hyear.1, hmonth.1, hday.1]

theorem Date.IsEightDigits.head {date : Date} {text : List Char} (h : date.IsEightDigits text) :
    ∃ c rest, text = c :: rest ∧ Decimal.isDigit c = true := by
  obtain ⟨year, month, day, rfl, hyear, _, _⟩ := h
  obtain ⟨c, rest, rfl, hc⟩ := hyear.head (by decide)
  exact ⟨c, rest ++ month ++ day, by simp, hc⟩

namespace Moment

/-- The date and the time of a moment as they are written. -/
theorem digitsText_eq (m : Moment) :
    m.digitsText = (yearText m.date.year ++ two m.date.month ++ two m.date.day) ++
      (two m.time.hour ++ two m.time.minute ++ two m.time.shownSecond) := by
  simp only [digitsText, List.append_assoc]

theorem hasWidth_two {n : Nat} (h : n < 100) : Decimal.HasWidth 2 n (two n) :=
  Decimal.hasWidth_paddedDigits (by decide) h

theorem hasWidth_yearText {date : Date} (h : date.FourDigitYear) :
    Decimal.HasWidth 4 date.year (yearText date.year) := by
  obtain ⟨hlow, hhigh⟩ := h
  have hyear : Decimal.HasWidth 4 (date.year.natAbs : Nat) (yearText date.year) := by
    rw [yearText, if_pos ⟨hlow, hhigh⟩]
    exact Decimal.hasWidth_paddedDigits (by decide) (by omega)
  rwa [Int.natAbs_of_nonneg hlow] at hyear

theorem hasWidth_month (date : Date) : Decimal.HasWidth 2 date.month (two date.month) := by
  have hmonth := date.month_range
  exact hasWidth_two (by omega)

theorem hasWidth_day (date : Date) : Decimal.HasWidth 2 date.day (two date.day) := by
  have hday := date.day_le
  exact hasWidth_two (by omega)

theorem isEightDigits_dateText {date : Date} (h : date.FourDigitYear) :
    date.IsEightDigits (yearText date.year ++ two date.month ++ two date.day) :=
  ⟨_, _, _, rfl, hasWidth_yearText h, hasWidth_month date, hasWidth_day date⟩

theorem shownSecond_lt (time : TimeOfDay) : time.shownSecond < 100 := by
  have hsecond := time.second_range
  have hnano := time.nano_range
  unfold TimeOfDay.shownSecond
  omega

/-- A moment in a year of four digits is written in fourteen digits. -/
theorem isTimestamp_digitsText {m : Moment} (h : m.date.FourDigitYear) :
    m.IsTimestamp m.digitsText := by
  have hhour := m.time.hour_range
  have hminute := m.time.minute_range
  rw [digitsText_eq, ← List.append_assoc, ← List.append_assoc]
  exact ⟨_, _, _, _, rfl, isEightDigits_dateText h, hasWidth_two (by omega),
    hasWidth_two (by omega), hasWidth_two (shownSecond_lt m.time)⟩

theorem yearText_of_not_fourDigitYear {date : Date} (h : ¬ date.FourDigitYear) :
    yearText date.year =
      (if date.year < 0 then '-' else '+') :: Decimal.paddedDigits 4 date.year.natAbs :=
  if_neg h

/-- A year that has not four digits is written with a sign. -/
theorem exists_sign_of_not_fourDigitYear {m : Moment} (h : ¬ m.date.FourDigitYear) :
    ∃ c rest, m.digitsText = c :: rest ∧ Decimal.isDigit c = false := by
  refine ⟨if m.date.year < 0 then '-' else '+', _,
    by rw [digitsText, yearText_of_not_fourDigitYear h]; rfl, ?_⟩
  split <;> decide

theorem fourDigitYear_of_isTimestamp {m other : Moment} (h : other.IsTimestamp m.digitsText) :
    m.date.FourDigitYear := by
  refine Decidable.byContradiction fun hyear => ?_
  obtain ⟨sign, rest, htext, hsign⟩ := exists_sign_of_not_fourDigitYear hyear
  obtain ⟨date, hour, minute, second, hsplit, hdate, _⟩ := h
  obtain ⟨c, others, rfl, hc⟩ := hdate.head
  rw [htext] at hsplit
  obtain rfl : sign = c := (List.cons.inj hsplit).1
  rw [hsign] at hc
  cases hc

/-! ## The length of date texts -/

theorem ascii_yearText (year : Int) : ∀ c ∈ yearText year, c.toNat < 0x80 := by
  unfold yearText
  split
  · exact Decimal.ascii_paddedDigits 4 year.natAbs
  · refine List.forall_mem_cons.mpr ⟨?_, Decimal.ascii_paddedDigits 4 year.natAbs⟩
    split <;> decide

theorem ascii_digitsText (m : Moment) : ∀ c ∈ m.digitsText, c.toNat < 0x80 := by
  unfold digitsText two
  simp only [List.forall_mem_append]
  have htwo : ∀ n, ∀ c ∈ Decimal.paddedDigits 2 n, c.toNat < 0x80 := Decimal.ascii_paddedDigits 2
  exact ⟨⟨⟨⟨⟨ascii_yearText _, htwo _⟩, htwo _⟩, htwo _⟩, htwo _⟩, htwo _⟩

theorem le_length_yearText (year : Int) : 4 ≤ (yearText year).length := by
  have hdigits := Decimal.le_length_paddedDigits 4 year.natAbs
  unfold yearText
  split
  · exact hdigits
  · exact hdigits.trans (Nat.le_succ _)

theorem le_length_digitsText (m : Moment) : 14 ≤ m.digitsText.length := by
  have hyear := le_length_yearText m.date.year
  have htwo : ∀ n, 2 ≤ (two n).length := Decimal.le_length_paddedDigits 2
  have hmonth := htwo m.date.month
  have hday := htwo m.date.day
  have hhour := htwo m.time.hour
  have hminute := htwo m.time.minute
  have hsecond := htwo m.time.shownSecond
  simp only [digitsText, List.length_append]
  omega

/-! ## Written moments in order -/

variable {m n : Moment}

/-- The number that the digits of a moment make. -/
def digitsNumber (m : Moment) : Int :=
  ((((m.date.year * 100 + m.date.month) * 100 + m.date.day) * 100 + m.time.hour) * 100 +
    m.time.minute) * 100 + m.time.shownSecond

theorem IsTimestamp.hasWidth {text : List Char} (h : m.IsTimestamp text) :
    Decimal.HasWidth 14 m.digitsNumber text := by
  obtain ⟨date, hour, minute, second, rfl, hdate, hhour, hminute, hsecond⟩ := h
  obtain ⟨year, month, day, rfl, hyear, hmonth, hday⟩ := hdate
  exact ((((hyear.append hmonth).append hday).append hhour).append hminute).append hsecond

/-- Later moments do not make smaller numbers. -/
theorem digitsNumber_mono (h : m ≤ n) : m.digitsNumber ≤ n.digitsNumber := by
  rcases h.eq_or_lt with rfl | hlt
  · exact le_rfl
  have hmonth := m.date.month_range
  have hmonth' := n.date.month_range
  have hday := m.date.day_le
  have hday' := n.date.day_range.1
  have hhour := m.time.hour_range
  have hminute := m.time.minute_range
  have hminute' := n.time.minute_range
  have hsecond := m.time.second_range
  have hsecond' := n.time.second_range
  have hnano := m.time.nano_range
  have hnano' := n.time.nano_range
  unfold digitsNumber TimeOfDay.shownSecond
  rcases isBefore_iff.mp (isBefore_iff_lt.mpr hlt) with hdate | ⟨⟨hyear, hmonths, hdays⟩, htime⟩
  · unfold Date.Precedes at hdate
    omega
  · unfold TimeOfDay.seconds at htime
    rw [hyear, hmonths, hdays]
    omega

/-- Moments in years of four digits are in order as texts. -/
theorem IsTimestamp.le {first second : List Char} (hfirst : m.IsTimestamp first)
    (hsecond : n.IsTimestamp second) (h : m ≤ n) : first ≤ second :=
  hfirst.hasWidth.le hsecond.hasWidth (digitsNumber_mono h)

end Moment

end BankStatement
