import BankStatement.Calendar.Date
import BankStatement.Decimal.Basic

/-!
# Moments

A moment is a date and a time of day.  A leap second is a fraction of a whole second or more, which
may come after any second, though only the last one of a minute can be asked for by its parts
(`TimeOfDay.ofParts?`).  Three written forms of moments are in use, one in statements, one in
summaries and one in documents.
-/

namespace BankStatement

/-- A time of day, down to nanoseconds. -/
structure TimeOfDay where
  hour : Nat
  minute : Nat
  second : Nat
  nano : Nat
  hour_range : hour < 24
  minute_range : minute < 60
  second_range : second < 60
  nano_range : nano < 2000000000
deriving DecidableEq, Repr

namespace TimeOfDay

/-- The time of the given parts, when they are in range and a leap second ends its minute. -/
def ofParts? (hour minute second nano : Nat) : Option TimeOfDay :=
  if h : hour < 24 ∧ minute < 60 ∧ second < 60 ∧
      (nano < 1000000000 ∨ second = 59 ∧ nano < 2000000000) then
    some ⟨hour, minute, second, nano, h.1, h.2.1, h.2.2.1, by omega⟩
  else none

def midnight : TimeOfDay where
  hour := 0
  minute := 0
  second := 0
  nano := 0
  hour_range := by decide
  minute_range := by decide
  second_range := by decide
  nano_range := by decide

/-- The second as written: in a leap second, the one after it. -/
def shownSecond (time : TimeOfDay) : Nat :=
  time.second + time.nano / 1000000000

/-- The fraction of the second as written, in nanoseconds. -/
def shownNano (time : TimeOfDay) : Nat :=
  time.nano % 1000000000

/-- Seconds since midnight. -/
def seconds (time : TimeOfDay) : Nat :=
  (time.hour * 60 + time.minute) * 60 + time.second

end TimeOfDay

/-- A date and a time of day. -/
structure Moment where
  date : Date
  time : TimeOfDay
deriving DecidableEq, Repr

namespace Moment

def ofDate (date : Date) : Moment := ⟨date, .midnight⟩

/-! ## Order -/

/-- The parts of a moment, from the greatest unit to the least. -/
def parts (m : Moment) : List Int :=
  [m.date.year, m.date.month, m.date.day, m.time.hour, m.time.minute, m.time.second, m.time.nano]

/-- Whether a list of parts comes before another. -/
def partsBefore : List Int → List Int → Bool
  | x :: xs, y :: ys => decide (x < y) || (x == y && partsBefore xs ys)
  | _, _ => false

/-- Whether a moment is earlier than another. -/
def isBefore (m n : Moment) : Bool :=
  partsBefore m.parts n.parts

def earlier (m n : Moment) : Moment :=
  if n.isBefore m then n else m

def later (m n : Moment) : Moment :=
  if m.isBefore n then n else m

/-! ## Written forms -/

/-- A year: four digits from 0 to 9999, otherwise a sign and at least four digits. -/
def yearText (year : Int) : List Char :=
  if 0 ≤ year ∧ year ≤ 9999 then Decimal.paddedDigits 4 year.natAbs
  else (if year < 0 then '-' else '+') :: Decimal.paddedDigits 4 year.natAbs

def two (n : Nat) : List Char := Decimal.paddedDigits 2 n

/-- Date and time in one run of digits, as in statements. -/
def digitsText (m : Moment) : List Char :=
  yearText m.date.year ++ two m.date.month ++ two m.date.day ++ two m.time.hour ++
    two m.time.minute ++ two m.time.shownSecond

/-- The date with dashes. -/
def dashedDate (date : Date) : List Char :=
  yearText date.year ++ '-' :: two date.month ++ '-' :: two date.day

/-- The time with colons, without the fraction of the second. -/
def colonedTime (time : TimeOfDay) : List Char :=
  two time.hour ++ ':' :: two time.minute ++ ':' :: two time.shownSecond

/-- Date and time with a blank between them, as in summaries. -/
def spacedText (m : Moment) : List Char :=
  dashedDate m.date ++ ' ' :: colonedTime m.time

/-- The fraction of a second: nothing when there is none, else the fewest of 3, 6 and 9 digits. -/
def fractionText (nano : Nat) : List Char :=
  if nano = 0 then []
  else if nano % 1000000 = 0 then '.' :: Decimal.paddedDigits 3 (nano / 1000000)
  else if nano % 1000 = 0 then '.' :: Decimal.paddedDigits 6 (nano / 1000)
  else '.' :: Decimal.paddedDigits 9 nano

/-- Date and time with a `T` between them and the fraction of the second, as in documents. -/
def documentText (m : Moment) : List Char :=
  dashedDate m.date ++ 'T' :: colonedTime m.time ++ fractionText m.time.shownNano

/-! ## Timestamps -/

/-- The day number of the first of January 1970. -/
def epochDayNumber : Int := 719163

/-- Seconds since the beginning of 1970. -/
def timestamp (m : Moment) : Int :=
  (m.date.dayNumber - epochDayNumber) * 86400 + m.time.seconds

/-- The moment of a timestamp. -/
def ofTimestamp? (timestamp : Int) : Option Moment :=
  let second := (timestamp % 86400).toNat
  match Date.ofDayNumber? (timestamp / 86400 + epochDayNumber),
      TimeOfDay.ofParts? (second / 3600) (second / 60 % 60) (second % 60) 0 with
  | some date, some time => some ⟨date, time⟩
  | _, _ => none

end Moment

end BankStatement
