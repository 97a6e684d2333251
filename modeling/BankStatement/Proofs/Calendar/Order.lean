import Mathlib.Data.Prod.Lex
import Mathlib.Order.MinMax
import BankStatement.Calendar.Moment

/-!
# The order of moments

Moments are ordered as they follow one another: by the seconds since the beginning of 1970, and
within a second by nanoseconds, where those of a leap second are past a whole second
(`Moment.instant`).  Comparing two moments part by part, from the year down, finds the same order
(`Moment.isBefore_iff_lt`).

For dates this rests on the lengths of years and months: a day of a year comes before the next year
begins (`Date.dayOfYear_le`), and a day of a month before the next month
(`Date.dayOfYear_lt_of_month_lt`).  For times the parts other than the nanoseconds make up the
seconds.
-/

namespace BankStatement

/-! ## Days -/

theorem daysBeforeYear_succ (year : Int) :
    daysBeforeYear (year + 1) = daysBeforeYear year + daysInYear year := by
  unfold daysBeforeYear daysInYear isLeapYear
  simp only [Bool.and_eq_true, Bool.or_eq_true, beq_iff_eq, bne_iff_ne]
  split <;> omega

theorem daysBeforeYear_mono {first second : Int} (h : first ≤ second) :
    daysBeforeYear first ≤ daysBeforeYear second := by
  simp only [daysBeforeYear]
  omega

theorem daysBeforeMonth_succ (year : Int) {month : Nat} (h : 1 ≤ month) :
    daysBeforeMonth year (month + 1) = daysBeforeMonth year month + daysInMonth year month := by
  obtain ⟨before, rfl⟩ := Nat.exists_eq_add_of_le' h
  rfl

theorem daysBeforeMonth_mono (year : Int) {first second : Nat} (hfirst : 1 ≤ first)
    (h : first ≤ second) : daysBeforeMonth year first ≤ daysBeforeMonth year second := by
  induction second, h using Nat.le_induction with
  | base => exact Nat.le_refl _
  | succ month hmonth ih =>
      rw [daysBeforeMonth_succ year (hfirst.trans hmonth)]
      exact ih.trans (Nat.le_add_right _ _)

/-- A year is as long as its twelve months. -/
theorem daysBeforeMonth_thirteen (year : Int) : daysBeforeMonth year 13 = daysInYear year := by
  simp only [daysBeforeMonth, daysInMonth, daysInYear]
  split <;> rfl

namespace Date

variable {first second : Date}

theorem day_le (date : Date) : date.day ≤ 31 := by
  have hday := date.day_range.2
  unfold daysInMonth at hday
  repeat' split at hday
  all_goals omega

theorem dayOfYear_le_daysBeforeMonth (date : Date) :
    date.dayOfYear ≤ daysBeforeMonth date.year (date.month + 1) := by
  rw [daysBeforeMonth_succ date.year date.month_range.1, dayOfYear]
  exact Nat.add_le_add_left date.day_range.2 _

theorem dayOfYear_pos (date : Date) : 1 ≤ date.dayOfYear :=
  date.day_range.1.trans (Nat.le_add_left _ _)

theorem dayOfYear_le (date : Date) : date.dayOfYear ≤ daysInYear date.year := by
  have hmonth := date.month_range
  calc date.dayOfYear ≤ daysBeforeMonth date.year (date.month + 1) :=
        date.dayOfYear_le_daysBeforeMonth
    _ ≤ daysBeforeMonth date.year 13 := daysBeforeMonth_mono date.year (by omega) (by omega)
    _ = daysInYear date.year := daysBeforeMonth_thirteen date.year

theorem dayOfYear_lt_of_month_lt (hyear : first.year = second.year)
    (h : first.month < second.month) : first.dayOfYear < second.dayOfYear := by
  calc first.dayOfYear ≤ daysBeforeMonth first.year (first.month + 1) :=
        first.dayOfYear_le_daysBeforeMonth
    _ ≤ daysBeforeMonth second.year second.month := by
        rw [hyear]
        exact daysBeforeMonth_mono second.year (by omega) h
    _ < second.dayOfYear := by
        have hday := second.day_range.1
        unfold dayOfYear
        omega

/-- Whether a date precedes another in year, month and day. -/
def Precedes (first second : Date) : Prop :=
  first.year < second.year ∨ first.year = second.year ∧
    (first.month < second.month ∨ first.month = second.month ∧ first.day < second.day)

theorem eq_of_parts (hyear : first.year = second.year) (hmonth : first.month = second.month)
    (hday : first.day = second.day) : first = second := by
  obtain ⟨year, month, day, _, _, _⟩ := first
  obtain ⟨year', month', day', _, _, _⟩ := second
  obtain rfl : year = year' := hyear
  obtain rfl : month = month' := hmonth
  obtain rfl : day = day' := hday
  rfl

theorem Precedes.dayNumber_lt (h : first.Precedes second) : first.dayNumber < second.dayNumber := by
  unfold dayNumber
  rcases h with hyear | ⟨hyear, hmonth | ⟨hmonth, hday⟩⟩
  · have hend := daysBeforeYear_succ first.year
    have hmono : daysBeforeYear (first.year + 1) ≤ daysBeforeYear second.year :=
      daysBeforeYear_mono hyear
    have hfirst := first.dayOfYear_le
    have hsecond := second.dayOfYear_pos
    omega
  · have hless := dayOfYear_lt_of_month_lt hyear hmonth
    rw [hyear]
    omega
  · unfold dayOfYear
    rw [hyear, hmonth]
    omega

end Date

/-! ## Times of day -/

namespace TimeOfDay

theorem seconds_lt (time : TimeOfDay) : time.seconds < 86400 := by
  have hhour := time.hour_range
  have hminute := time.minute_range
  have hsecond := time.second_range
  unfold seconds
  omega

/-- Times in the same second have the same hour, minute and second. -/
theorem eq_of_seconds {first second : TimeOfDay} (hseconds : first.seconds = second.seconds)
    (hnano : first.nano = second.nano) : first = second := by
  obtain ⟨hour, minute, sec, nano, _, _, _, _⟩ := first
  obtain ⟨hour', minute', sec', nano', _, _, _, _⟩ := second
  simp only [seconds] at hseconds
  obtain rfl : hour = hour' := by omega
  obtain rfl : minute = minute' := by omega
  obtain rfl : sec = sec' := by omega
  obtain rfl : nano = nano' := hnano
  rfl

end TimeOfDay

/-! ## Moments -/

namespace Moment

variable {m n : Moment}

/-- Where a moment stands: the seconds since the beginning of 1970, and the nanoseconds. -/
def instant (m : Moment) : Int ×ₗ Nat :=
  toLex (m.timestamp, m.time.nano)

theorem instant_lt_iff : m.instant < n.instant ↔
    m.timestamp < n.timestamp ∨ m.timestamp = n.timestamp ∧ m.time.nano < n.time.nano :=
  Prod.Lex.toLex_lt_toLex

/-- Comparing part by part is comparing dates, then seconds of the day, then nanoseconds. -/
theorem isBefore_iff :
    m.isBefore n = true ↔ m.date.Precedes n.date ∨
      (m.date.year = n.date.year ∧ m.date.month = n.date.month ∧ m.date.day = n.date.day) ∧
        (m.time.seconds < n.time.seconds ∨ m.time.seconds = n.time.seconds ∧
          m.time.nano < n.time.nano) := by
  have hminute := m.time.minute_range
  have hminute' := n.time.minute_range
  have hsecond := m.time.second_range
  have hsecond' := n.time.second_range
  simp only [isBefore, parts, partsBefore, Date.Precedes, TimeOfDay.seconds, Bool.or_eq_true,
    Bool.and_eq_true, decide_eq_true_eq, beq_iff_eq, Int.natCast_inj, Int.ofNat_lt,
    Bool.false_eq_true, and_false, or_false]
  omega

/-- A moment that comes before another part by part stands before it. -/
theorem instant_lt_of_isBefore (h : m.isBefore n = true) : m.instant < n.instant := by
  have hseconds := m.time.seconds_lt
  rw [instant_lt_iff]
  unfold timestamp
  rcases isBefore_iff.mp h with hdate | ⟨⟨hyear, hmonth, hday⟩, htime⟩
  · have hless := hdate.dayNumber_lt
    exact .inl (by omega)
  · rw [Date.eq_of_parts hyear hmonth hday]
    omega

/-- Two moments are the same, or one comes before the other part by part. -/
theorem isBefore_trichotomy (m n : Moment) :
    m.isBefore n = true ∨ m = n ∨ n.isBefore m = true := by
  by_cases hless : m.isBefore n = true
  · exact .inl hless
  by_cases hmore : n.isBefore m = true
  · exact .inr (.inr hmore)
  refine .inr (.inl ?_)
  rw [isBefore_iff, Date.Precedes] at hless hmore
  have hdate : m.date = n.date := by
    apply Date.eq_of_parts <;> omega
  have htime : m.time = n.time := by
    apply TimeOfDay.eq_of_seconds <;> omega
  cases m
  cases n
  rw [mk.injEq]
  exact ⟨hdate, htime⟩

theorem instant_injective : Function.Injective instant := by
  intro m n h
  rcases isBefore_trichotomy m n with hless | hsame | hmore
  · exact absurd h (instant_lt_of_isBefore hless).ne
  · exact hsame
  · exact absurd h (instant_lt_of_isBefore hmore).ne'

/-- Moments are ordered by where they stand. -/
instance : LinearOrder Moment :=
  LinearOrder.lift' instant instant_injective

/-- Comparing part by part finds the order of moments. -/
theorem isBefore_iff_lt : m.isBefore n = true ↔ m < n := by
  refine ⟨instant_lt_of_isBefore, fun h => ?_⟩
  rcases isBefore_trichotomy m n with hless | rfl | hmore
  · exact hless
  · exact absurd h (lt_irrefl m)
  · exact absurd h (lt_asymm (instant_lt_of_isBefore hmore))

theorem earlier_eq_min (m n : Moment) : m.earlier n = min m n := by
  unfold earlier
  by_cases h : n < m
  · rw [if_pos (isBefore_iff_lt.mpr h), min_eq_right h.le]
  · rw [if_neg (mt isBefore_iff_lt.mp h), min_eq_left (not_lt.mp h)]

theorem later_eq_max (m n : Moment) : m.later n = max m n := by
  unfold later
  by_cases h : m < n
  · rw [if_pos (isBefore_iff_lt.mpr h), max_eq_right h.le]
  · rw [if_neg (mt isBefore_iff_lt.mp h), max_eq_left (not_lt.mp h)]

end Moment

end BankStatement
