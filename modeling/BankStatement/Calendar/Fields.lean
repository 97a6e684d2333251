import BankStatement.Calendar.Moment

/-!
# Date fields

What a date text says, field by field, and the date and time that follow from it.  A field may be
said twice as long as it is said the same way, and fields that are not needed for the date still
have to agree with it.
-/

namespace BankStatement

/-- Why a text gives no date. -/
inductive DateFault where
  | tooShort
  | invalid
  | outOfRange
  | notEnough
  | impossible
  | tooLong
deriving DecidableEq, Repr

def DateFault.message : DateFault → String
  | tooShort => "premature end of input"
  | invalid => "input contains invalid characters"
  | outOfRange => "input is out of range"
  | notEnough => "input is not enough for unique date and time"
  | impossible => "no possible date and time matching input"
  | tooLong => "trailing input"

/-- The fields that a text may give.  Years may be given as a whole or as century and year of the
century; hours as the half of the day and the hour in it. -/
structure DateFields where
  year : Option Int
  century : Option Int
  yearOfCentury : Option Int
  weekYear : Option Int
  weekYearOfCentury : Option Int
  quarter : Option Int
  month : Option Int
  day : Option Int
  dayOfYear : Option Int
  weekFromSunday : Option Int
  weekFromMonday : Option Int
  week : Option Int
  weekday : Option Weekday
  half : Option Int
  hourOfHalf : Option Int
  minute : Option Int
  second : Option Int
  nano : Option Int
  timestamp : Option Int
  offset : Option Int
deriving DecidableEq, Repr

namespace DateFields

/-- No field is given. -/
def empty : DateFields :=
  ⟨none, none, none, none, none, none, none, none, none, none, none, none, none, none, none, none,
    none, none, none, none⟩

/-! ## Giving fields -/

/-- A field after it is given once more. -/
def agree {α : Type} [DecidableEq α] (old : Option α) (new : α) : Except DateFault (Option α) :=
  match old with
  | none => .ok (some new)
  | some value => if value = new then .ok old else .error .impossible

/-- A numeric field after it is given once more, as a value from `least` to `greatest`. -/
def agreeWithin (least greatest : Int) (old : Option Int) (new : Int) :
    Except DateFault (Option Int) :=
  if least ≤ new ∧ new ≤ greatest then agree old new else .error .outOfRange

/-- The whole numbers of 32 bits. -/
def least32 : Int := -2147483648
def greatest32 : Int := 2147483647

def giveYear (f : DateFields) (n : Int) : Except DateFault DateFields :=
  (agreeWithin least32 greatest32 f.year n).map fun year => { f with year }

def giveCentury (f : DateFields) (n : Int) : Except DateFault DateFields :=
  (agreeWithin 0 greatest32 f.century n).map fun century => { f with century }

def giveYearOfCentury (f : DateFields) (n : Int) : Except DateFault DateFields :=
  (agreeWithin 0 99 f.yearOfCentury n).map fun yearOfCentury => { f with yearOfCentury }

def giveWeekYear (f : DateFields) (n : Int) : Except DateFault DateFields :=
  (agreeWithin least32 greatest32 f.weekYear n).map fun weekYear => { f with weekYear }

def giveWeekYearOfCentury (f : DateFields) (n : Int) : Except DateFault DateFields :=
  (agreeWithin 0 99 f.weekYearOfCentury n).map fun weekYearOfCentury => { f with weekYearOfCentury }

def giveQuarter (f : DateFields) (n : Int) : Except DateFault DateFields :=
  (agreeWithin 1 4 f.quarter n).map fun quarter => { f with quarter }

def giveMonth (f : DateFields) (n : Int) : Except DateFault DateFields :=
  (agreeWithin 1 12 f.month n).map fun month => { f with month }

def giveDay (f : DateFields) (n : Int) : Except DateFault DateFields :=
  (agreeWithin 1 31 f.day n).map fun day => { f with day }

def giveDayOfYear (f : DateFields) (n : Int) : Except DateFault DateFields :=
  (agreeWithin 1 366 f.dayOfYear n).map fun dayOfYear => { f with dayOfYear }

def giveWeekFromSunday (f : DateFields) (n : Int) : Except DateFault DateFields :=
  (agreeWithin 0 53 f.weekFromSunday n).map fun weekFromSunday => { f with weekFromSunday }

def giveWeekFromMonday (f : DateFields) (n : Int) : Except DateFault DateFields :=
  (agreeWithin 0 53 f.weekFromMonday n).map fun weekFromMonday => { f with weekFromMonday }

def giveWeek (f : DateFields) (n : Int) : Except DateFault DateFields :=
  (agreeWithin 1 53 f.week n).map fun week => { f with week }

def giveWeekday (f : DateFields) (day : Weekday) : Except DateFault DateFields :=
  (agree f.weekday day).map fun weekday => { f with weekday }

/-- A weekday as a number from 0 for Sunday to 6 for Saturday. -/
def giveDayFromSunday (f : DateFields) (n : Int) : Except DateFault DateFields :=
  if 0 ≤ n ∧ n ≤ 6 then f.giveWeekday (.ofIndex (n.toNat + 6)) else .error .outOfRange

/-- A weekday as a number from 1 for Monday to 7 for Sunday. -/
def giveDayFromMonday (f : DateFields) (n : Int) : Except DateFault DateFields :=
  if 1 ≤ n ∧ n ≤ 7 then f.giveWeekday (.ofIndex (n.toNat - 1)) else .error .outOfRange

/-- The half of the day: 0 before noon, 1 from noon on. -/
def giveHalf (f : DateFields) (n : Int) : Except DateFault DateFields :=
  (agreeWithin 0 1 f.half n).map fun half => { f with half }

/-- An hour on a clock that shows 12 at noon and at midnight. -/
def giveHourOfHalf (f : DateFields) (n : Int) : Except DateFault DateFields :=
  if 1 ≤ n ∧ n ≤ 12 then (agree f.hourOfHalf (n % 12)).map fun hourOfHalf => { f with hourOfHalf }
  else .error .outOfRange

def giveHour (f : DateFields) (n : Int) : Except DateFault DateFields :=
  if 0 ≤ n ∧ n ≤ 23 then do
    let half ← agree f.half (n / 12)
    let hourOfHalf ← agree f.hourOfHalf (n % 12)
    return { f with half, hourOfHalf }
  else .error .outOfRange

def giveMinute (f : DateFields) (n : Int) : Except DateFault DateFields :=
  (agreeWithin 0 59 f.minute n).map fun minute => { f with minute }

/-- A second; 60 is the leap second. -/
def giveSecond (f : DateFields) (n : Int) : Except DateFault DateFields :=
  (agreeWithin 0 60 f.second n).map fun second => { f with second }

def giveNano (f : DateFields) (n : Int) : Except DateFault DateFields :=
  (agreeWithin 0 999999999 f.nano n).map fun nano => { f with nano }

def giveTimestamp (f : DateFields) (n : Int) : Except DateFault DateFields :=
  (agree f.timestamp n).map fun timestamp => { f with timestamp }

def giveOffset (f : DateFields) (n : Int) : Except DateFault DateFields :=
  (agree f.offset n).map fun offset => { f with offset }

/-! ## Years -/

/-- The year that a whole year, a century and a year of the century say.  A year of the century
alone is one from 1970 to 2069. -/
def resolveYear (whole century ofCentury : Option Int) : Except DateFault (Option Int) :=
  match whole, century, ofCentury with
  | year, none, none => .ok year
  | some year, century, ofCentury =>
      if year < 0 then .error .impossible
      else if century.getD (year / 100) = year / 100 ∧ ofCentury.getD (year % 100) = year % 100 then
        .ok (some year)
      else .error .impossible
  | none, some century, some ofCentury =>
      if century * 100 + ofCentury ≤ greatest32 then .ok (some (century * 100 + ofCentury))
      else .error .outOfRange
  | none, none, some ofCentury => .ok (some (ofCentury + if ofCentury < 70 then 2000 else 1900))
  | none, some _, none => .error .notEnough

/-! ## Agreement with a date -/

/-- Whether a given part, if any, is the part of a date. -/
def allows {α : Type} [DecidableEq α] (given : Option α) (part : α) : Bool :=
  given.all (· = part)

/-- Whether given century and year of the century are those of a year.  A year before 0 has none. -/
def allowsCentury (century ofCentury : Option Int) (year : Int) : Bool :=
  if 0 ≤ year then allows century (year / 100) && allows ofCentury (year % 100)
  else century.isNone && ofCentury.isNone

/-- Whether the fields agree with a date's year, month and day. -/
def allowsDay (f : DateFields) (date : Date) : Bool :=
  allows f.year date.year && allowsCentury f.century f.yearOfCentury date.year &&
    allows f.month date.month && allows f.day date.day

/-- Whether the fields agree with a date's week year, week and weekday. -/
def allowsWeek (f : DateFields) (date : Date) : Bool :=
  allows f.weekYear date.weekYear && allowsCentury none f.weekYearOfCentury date.weekYear &&
    allows f.week date.weekOfWeekYear && allows f.weekday date.weekday

/-- Whether the fields agree with a date's day of the year and weeks of the year. -/
def allowsDayOfYear (f : DateFields) (date : Date) : Bool :=
  allows f.dayOfYear date.dayOfYear && allows f.weekFromSunday (date.weekFrom .sunday) &&
    allows f.weekFromMonday (date.weekFrom .monday)

/-! ## The date -/

/-- The date of a weekday in a week of a year, where week 1 begins on the first day of the year that
is `start`. -/
def ofWeekFrom (year week : Int) (day start : Weekday) : Except DateFault Date :=
  match Date.ofDayOfYear? year 1 with
  | none => .error .outOfRange
  | some first =>
      let dayOfYear : Int :=
        1 + start.daysSince first.weekday + (week - 1) * 7 + day.daysSince start
      if dayOfYear ≤ 0 then .error .impossible
      else match Date.ofDayOfYear? year dayOfYear.toNat with
        | some date => .ok date
        | none => .error .impossible

/-- A date that is there and agrees with the fields. -/
def checked (date? : Option Date) (agrees : Date → Bool) : Except DateFault Date :=
  match date? with
  | none => .error .outOfRange
  | some date => if agrees date then .ok date else .error .impossible

/-- The date that the fields give in the first of these ways that has all it needs: month and day,
day of the year, weekday and week from Sunday, weekday and week from Monday, weekday and week of the
week year. -/
def candidate (f : DateFields) : Except DateFault Date := do
  let year ← resolveYear f.year f.century f.yearOfCentury
  let weekYear ← resolveYear f.weekYear none f.weekYearOfCentury
  let all (date : Date) : Bool := f.allowsDay date && f.allowsWeek date && f.allowsDayOfYear date
  match year, f.month, f.day with
  | some year, some month, some day =>
      checked (Date.ofDay? year month.toNat day.toNat) fun date =>
        f.allowsWeek date && f.allowsDayOfYear date
  | _, _, _ =>
  match year, f.dayOfYear with
  | some year, some dayOfYear => checked (Date.ofDayOfYear? year dayOfYear.toNat) all
  | _, _ =>
  match year, f.weekFromSunday, f.weekday with
  | some year, some week, some day => do checked (some (← ofWeekFrom year week day .sunday)) all
  | _, _, _ =>
  match year, f.weekFromMonday, f.weekday with
  | some year, some week, some day => do checked (some (← ofWeekFrom year week day .monday)) all
  | _, _, _ =>
  match weekYear, f.week, f.weekday with
  | some year, some week, some day =>
      checked (Date.ofWeek? year week.toNat day) fun date =>
        f.allowsDay date && f.allowsDayOfYear date
  | _, _, _ => .error .notEnough

/-- The date that the fields give. -/
def toDate (f : DateFields) : Except DateFault Date := do
  let date ← f.candidate
  if allows f.quarter (date.quarter : Int) then .ok date else .error .impossible

/-! ## The time -/

/-- The time that the fields give.  Seconds may be missing, but then a fraction must be too. -/
def toTime (f : DateFields) : Except DateFault TimeOfDay :=
  match f.half, f.hourOfHalf, f.minute with
  | some half, some hour, some minute =>
      let given := f.second.getD 0
      let (second, leap) := if given = 60 then (59, 1000000000) else (given, 0)
      match f.nano, f.second with
      | some _, none => .error .notEnough
      | nano, _ =>
          match TimeOfDay.ofParts? (half * 12 + hour).toNat minute.toNat second.toNat
              (leap + nano.getD 0).toNat with
          | some time => .ok time
          | none => .error .outOfRange
  | _, _, _ => .error .notEnough

/-! ## The moment -/

/-- Whether a timestamp is that of a moment.  During a leap second it may be one more. -/
def allowsTimestamp (f : DateFields) (m : Moment) : Bool :=
  f.timestamp.all fun t =>
    t = m.timestamp || (decide (1000000000 ≤ m.time.nano) && t = m.timestamp + 1)

/-- The fields with those of a moment given as well.  In a leap second the second stays as it is. -/
def giveMoment (f : DateFields) (m : Moment) : Except DateFault DateFields := do
  let f ← if f.second = some 60 then .ok f else f.giveSecond m.time.second
  let f ← f.giveYear m.date.year
  let f ← f.giveDayOfYear m.date.dayOfYear
  let f ← f.giveHour m.time.hour
  f.giveMinute m.time.minute

/-- The moment of a timestamp, on which the other fields have to agree. -/
def momentOfTimestamp (f : DateFields) (timestamp : Int) : Except DateFault Moment :=
  match Moment.ofTimestamp? timestamp with
  | none => .error .outOfRange
  | some m => do
      let m ←
        if f.second = some 60 ∧ m.time.second = 0 then
          match Moment.ofTimestamp? (timestamp - 1) with
          | some earlier => .ok earlier
          | none => .error .outOfRange
        else if f.second = some 60 ∧ m.time.second ≠ 59 then .error .impossible
        else .ok m
      let f ← f.giveMoment m
      let date ← f.toDate
      let time ← f.toTime
      return ⟨date, time⟩

/-- Whether something is missing for the given reason. -/
def failsBy {α : Type} (fault : DateFault) : Except DateFault α → Bool
  | .error e => e = fault
  | .ok _ => false

/-- The moment that the fields give: a date and a time, or a timestamp. -/
def toMoment (f : DateFields) : Except DateFault Moment :=
  match f.toDate, f.toTime with
  | .ok date, .ok time =>
      if f.allowsTimestamp ⟨date, time⟩ then .ok ⟨date, time⟩ else .error .impossible
  | date, time =>
      match f.timestamp with
      | some timestamp =>
          if failsBy .outOfRange date ∨ failsBy .outOfRange time then .error .outOfRange
          else if failsBy .impossible date ∨ failsBy .impossible time then .error .impossible
          else f.momentOfTimestamp timestamp
      | none => do
          let date ← date
          let time ← time
          return ⟨date, time⟩

end DateFields

end BankStatement
