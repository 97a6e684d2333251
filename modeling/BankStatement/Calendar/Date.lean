/-!
# Calendar dates

Dates of the Gregorian calendar, extended to all years of a fixed range.  Each date has a day
number, which counts days from the first day of year 1; weekdays, days of the year and week numbers
are read off it.
-/

namespace BankStatement

/-! ## Years and months -/

/-- The years that dates may have. -/
def minYear : Int := -262143
def maxYear : Int := 262142

def isLeapYear (year : Int) : Bool :=
  year % 4 == 0 && (year % 100 != 0 || year % 400 == 0)

def daysInYear (year : Int) : Nat :=
  if isLeapYear year then 366 else 365

def daysInMonth (year : Int) (month : Nat) : Nat :=
  match month with
  | 2 => if isLeapYear year then 29 else 28
  | 4 | 6 | 9 | 11 => 30
  | _ => 31

/-- How many days of a year come before a month. -/
def daysBeforeMonth (year : Int) : Nat → Nat
  | 0 => 0
  | 1 => 0
  | month + 2 => daysBeforeMonth year (month + 1) + daysInMonth year (month + 1)

/-- The day number before the first day of a year. -/
def daysBeforeYear (year : Int) : Int :=
  let past := year - 1
  365 * past + past / 4 - past / 100 + past / 400

/-! ## Weekdays -/

inductive Weekday where
  | monday
  | tuesday
  | wednesday
  | thursday
  | friday
  | saturday
  | sunday
deriving DecidableEq, Repr, Inhabited

namespace Weekday

/-- All weekdays, from Monday on. -/
def all : List Weekday := [monday, tuesday, wednesday, thursday, friday, saturday, sunday]

/-- How many days after Monday a weekday is. -/
def index : Weekday → Nat
  | monday => 0
  | tuesday => 1
  | wednesday => 2
  | thursday => 3
  | friday => 4
  | saturday => 5
  | sunday => 6

/-- The weekday a number of days after Monday. -/
def ofIndex (n : Nat) : Weekday :=
  all.getD (n % 7) monday

/-- How many days a weekday is after the last day of another. -/
def daysSince (day start : Weekday) : Nat :=
  (day.index + 7 - start.index) % 7

end Weekday

/-! ## Dates -/

/-- A date. -/
structure Date where
  year : Int
  month : Nat
  day : Nat
  year_range : minYear ≤ year ∧ year ≤ maxYear
  month_range : 1 ≤ month ∧ month ≤ 12
  day_range : 1 ≤ day ∧ day ≤ daysInMonth year month
deriving DecidableEq, Repr

namespace Date

/-- The date of a year, a month and a day of the month. -/
def ofDay? (year : Int) (month day : Nat) : Option Date :=
  if h : (minYear ≤ year ∧ year ≤ maxYear) ∧ (1 ≤ month ∧ month ≤ 12) ∧
      1 ≤ day ∧ day ≤ daysInMonth year month then
    some ⟨year, month, day, h.1, h.2.1, h.2.2⟩
  else none

/-- The month of a day of the year that is after `month - 1`, and the day in it; `left` months
follow `month`. -/
def splitDayOfYear (year : Int) (month left day : Nat) : Nat × Nat :=
  match left with
  | 0 => (month, day)
  | left + 1 =>
      if day ≤ daysInMonth year month then (month, day)
      else splitDayOfYear year (month + 1) left (day - daysInMonth year month)

/-- The date of a year and a day of it. -/
def ofDayOfYear? (year : Int) (dayOfYear : Nat) : Option Date :=
  if dayOfYear ≤ daysInYear year then
    let (month, day) := splitDayOfYear year 1 11 dayOfYear
    ofDay? year month day
  else none

/-- The day of the year. -/
def dayOfYear (date : Date) : Nat :=
  daysBeforeMonth date.year date.month + date.day

/-- The day number. -/
def dayNumber (date : Date) : Int :=
  daysBeforeYear date.year + date.dayOfYear

/-- The year of a day number.  The mean length of a year gives a guess that is off by at most one.
-/
def yearOfDayNumber (n : Int) : Int :=
  let guess := 400 * (n - 1) / 146097 + 1
  if n ≤ daysBeforeYear guess then guess - 1
  else if daysBeforeYear (guess + 1) < n then guess + 1
  else guess

/-- The date of a day number. -/
def ofDayNumber? (n : Int) : Option Date :=
  let year := yearOfDayNumber n
  ofDayOfYear? year (n - daysBeforeYear year).toNat

/-- The weekday of a day number.  Day 1 is a Monday. -/
def weekdayOf (n : Int) : Weekday :=
  .ofIndex ((n - 1) % 7).toNat

def weekday (date : Date) : Weekday :=
  weekdayOf date.dayNumber

/-- The quarter of the year, from 1 to 4. -/
def quarter (date : Date) : Nat :=
  (date.month - 1) / 3 + 1

/-! ## Weeks -/

/-- The number of the week in the year, where week 1 begins on the first day of the year that is the
given weekday. -/
def weekFrom (start : Weekday) (date : Date) : Nat :=
  (date.dayOfYear + 6 - date.weekday.daysSince start) / 7

/-- The day number of the Thursday in the week of a date.  A week belongs to the year of its
Thursday. -/
def thursdayNumber (date : Date) : Int :=
  date.dayNumber - date.weekday.index + 3

/-- The year to which the week of a date belongs. -/
def weekYear (date : Date) : Int :=
  yearOfDayNumber date.thursdayNumber

/-- The number of the week in the year to which it belongs. -/
def weekOfWeekYear (date : Date) : Nat :=
  ((date.thursdayNumber - daysBeforeYear date.weekYear - 1) / 7).toNat + 1

/-- The day number of the Monday of week 1 of a year: the week of the fourth of January. -/
def firstWeekMonday (year : Int) : Int :=
  let fourth := daysBeforeYear year + 4
  fourth - (weekdayOf fourth).index

/-- The date of a weekday in a week of a week year. -/
def ofWeek? (year : Int) (week : Nat) (day : Weekday) : Option Date :=
  let weeks := (firstWeekMonday (year + 1) - firstWeekMonday year) / 7
  if 1 ≤ week ∧ (week : Int) ≤ weeks then
    ofDayNumber? (firstWeekMonday year + 7 * ((week : Int) - 1) + day.index)
  else none

end Date

end BankStatement
