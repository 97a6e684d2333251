import BankStatement.Calendar.Fields
import BankStatement.Text.Ascii
import BankStatement.Text.Blank
import BankStatement.Text.Utf8

/-!
# Date directives

A date pattern is a list of directives, and a text is matched against them from left to right: each
directive takes what it reads off the front of the text and gives the fields that it read.
-/

namespace BankStatement

/-- The numbers that a pattern may ask for. -/
inductive NumericField where
  | year
  | century
  | yearOfCentury
  | weekYear
  | weekYearOfCentury
  | quarter
  | month
  | day
  | dayOfYear
  | weekFromSunday
  | weekFromMonday
  | week
  | dayFromSunday
  | dayFromMonday
  | hour
  | hourOfHalf
  | minute
  | second
  | nano
  | timestamp
deriving DecidableEq, Repr

namespace NumericField

/-- The most digits of a number without a sign, if that is limited. -/
def width? : NumericField → Option Nat
  | year | weekYear => some 4
  | quarter | dayFromSunday | dayFromMonday => some 1
  | dayOfYear => some 3
  | nano => some 9
  | timestamp => none
  | _ => some 2

/-- Whether a sign may stand before the number, which then may have any number of digits. -/
def mayBeSigned : NumericField → Bool
  | year | weekYear => true
  | _ => false

/-- Gives the field. -/
def give : NumericField → DateFields → Int → Except DateFault DateFields
  | year => DateFields.giveYear
  | century => DateFields.giveCentury
  | yearOfCentury => DateFields.giveYearOfCentury
  | weekYear => DateFields.giveWeekYear
  | weekYearOfCentury => DateFields.giveWeekYearOfCentury
  | quarter => DateFields.giveQuarter
  | month => DateFields.giveMonth
  | day => DateFields.giveDay
  | dayOfYear => DateFields.giveDayOfYear
  | weekFromSunday => DateFields.giveWeekFromSunday
  | weekFromMonday => DateFields.giveWeekFromMonday
  | week => DateFields.giveWeek
  | dayFromSunday => DateFields.giveDayFromSunday
  | dayFromMonday => DateFields.giveDayFromMonday
  | hour => DateFields.giveHour
  | hourOfHalf => DateFields.giveHourOfHalf
  | minute => DateFields.giveMinute
  | second => DateFields.giveSecond
  | nano => DateFields.giveNano
  | timestamp => DateFields.giveTimestamp

end NumericField

/-- What a pattern asks for.  `fraction` is an optional point with digits after it, `pointedDigits`
the same with a fixed number of digits, `fractionDigits` a fixed number of digits without a point,
and `zonedMoment` a whole moment with its zone. -/
inductive Directive where
  | literal (text : List Char)
  | blanks
  | numeric (field : NumericField)
  | shortMonth
  | longMonth
  | shortWeekday
  | longWeekday
  | half
  | fraction
  | pointedDigits (count : Nat)
  | fractionDigits (count : Nat)
  | zoneName
  | zoneOffset
  | lenientZoneOffset
  | zonedMoment
deriving DecidableEq, Repr

/-! ## Reading numbers -/

/-- What a directive leaves of a text, with what it read. -/
abbrev Scan (α : Type) := Except DateFault (α × List Char)

namespace Scan

/-- The greatest number that is read. -/
def greatest : Nat := 9223372036854775807

/-- A number of at least `least` digits and, if given, at most `most?`. -/
def number (least : Nat) (most? : Option Nat) (text : List Char) : Scan Nat :=
  let run := text.takeWhile Decimal.isDigit
  let digits := match most? with
    | some most => run.take most
    | none => run
  if Utf8.size (text.take least) < least then .error .tooShort
  else if digits.length < least then .error .invalid
  else if greatest < Decimal.ofDigits digits then .error .outOfRange
  else .ok (Decimal.ofDigits digits, text.drop digits.length)

/-- The number of a field. -/
def fieldNumber (field : NumericField) (text : List Char) : Scan Int :=
  if field.mayBeSigned then
    match text with
    | '-' :: rest => (number 1 none rest).map fun (n, rest) => (-(n : Int), rest)
    | '+' :: rest => (number 1 none rest).map fun (n, rest) => ((n : Int), rest)
    | _ => (number 1 field.width? text).map fun (n, rest) => ((n : Int), rest)
  else (number 1 field.width? text).map fun (n, rest) => ((n : Int), rest)

/-- Nanoseconds as the digits of a fraction; digits past the ninth are passed over. -/
def fraction (text : List Char) : Scan Nat :=
  (number 1 (some 9) text).map fun (n, rest) =>
    (n * Nat.pow 10 (9 - (text.length - rest.length)), rest.dropWhile Decimal.isDigit)

/-- Nanoseconds as a fixed number of digits of a fraction. -/
def fractionDigits (count : Nat) (text : List Char) : Scan Nat :=
  (number count (some count) text).map fun (n, rest) => (n * Nat.pow 10 (9 - count), rest)

/-! ## Reading names -/

/-- Month names in small letters: the first three, and the others. -/
def monthNames : List (String × String) :=
  [("jan", "uary"), ("feb", "ruary"), ("mar", "ch"), ("apr", "il"), ("may", ""), ("jun", "e"),
   ("jul", "y"), ("aug", "ust"), ("sep", "tember"), ("oct", "ober"), ("nov", "ember"),
   ("dec", "ember")]

/-- Weekday names from Monday on, in the same way. -/
def weekdayNames : List (String × String) :=
  [("mon", "day"), ("tue", "sday"), ("wed", "nesday"), ("thu", "rsday"), ("fri", "day"),
   ("sat", "urday"), ("sun", "day")]

/-- The index of a name of which the first three letters begin the text, in any letter case.  When
`whole` is set, the other letters are taken too if they follow. -/
def name (names : List (String × String)) (whole : Bool) (text : List Char) : Scan Nat :=
  if Utf8.size text < 3 then .error .tooShort
  else
    let start := String.ofList (Text.lowered (text.take 3))
    match names.findIdx? fun entry => entry.1 == start with
    | none => .error .invalid
    | some index =>
        let others := ((names.getD index ("", "")).2).toList
        let rest := text.drop 3
        if whole ∧ Text.lowered (rest.take others.length) = others then
          .ok (index, rest.drop others.length)
        else .ok (index, rest)

/-- The half of the day: 0 for `am` and 1 for `pm`, in any letter case. -/
def half (text : List Char) : Scan Nat :=
  if Utf8.size text < 2 then .error .tooShort
  else match Text.lowered (text.take 2) with
    | ['a', 'm'] => .ok (0, text.drop 2)
    | ['p', 'm'] => .ok (1, text.drop 2)
    | _ => .error .invalid

/-! ## Reading zones -/

/-- The minutes of an offset.  They may be missing at the end of a text when `optional` is set. -/
def offsetMinutes (optional : Bool) (text : List Char) : Scan Nat :=
  match text with
  | tens :: ones :: rest =>
      if Decimal.isDigit tens ∧ Decimal.isDigit ones then
        if Decimal.digitValue tens < 6 then
          .ok (10 * Decimal.digitValue tens + Decimal.digitValue ones, rest)
        else .error .outOfRange
      else .error .invalid
  | [_] => .error (if Utf8.size text < 2 then .tooShort else .invalid)
  | [] => if optional then .ok (0, []) else .error .tooShort

/-- The hours and minutes of an offset after its sign, in seconds.  Colons and blanks may stand
between them. -/
def offsetBody (optionalMinutes : Bool) (text : List Char) : Scan Nat :=
  match text with
  | tens :: ones :: rest =>
      if Decimal.isDigit tens ∧ Decimal.isDigit ones then
        let hours := 10 * Decimal.digitValue tens + Decimal.digitValue ones
        let afterColons := rest.dropWhile fun c => c == ':' || Text.isBlank c
        (offsetMinutes optionalMinutes afterColons).map fun (minutes, rest) =>
          (hours * 3600 + minutes * 60, rest)
      else .error .invalid
  | _ => .error (if Utf8.size text < 2 then .tooShort else .invalid)

/-- The offset of a zone, in seconds.  With `zulu` set, the letter `Z` is an offset of zero. -/
def offset (zulu optionalMinutes : Bool) (text : List Char) : Scan Int :=
  let east (rest : List Char) : Scan Int :=
    (offsetBody optionalMinutes rest).map fun (n, rest) => ((n : Int), rest)
  let west (rest : List Char) : Scan Int :=
    (offsetBody optionalMinutes rest).map fun (n, rest) => (-(n : Int), rest)
  match text with
  | [] => .error .tooShort
  | '+' :: rest => east rest
  | '-' :: rest => west rest
  | '\u2212' :: rest => west rest
  | c :: rest => if zulu ∧ (c = 'Z' ∨ c = 'z') then .ok (0, rest) else .error .invalid

end Scan

/-! ## Matching -/

namespace Directive

/-- A text that begins with a literal, without it. -/
def takeLiteral (literal text : List Char) : Except DateFault (List Char) :=
  if literal.isPrefixOf text then .ok (text.drop literal.length)
  else .error (if Utf8.size text < Utf8.size literal then .tooShort else .invalid)

/-- The fields and the rest of the text after a directive that reads a value. -/
def giving {α : Type} (scan : Scan α) (give : α → Except DateFault DateFields) :
    Except DateFault (DateFields × List Char) := do
  let (value, rest) ← scan
  let fields ← give value
  return (fields, rest)

/-- The fields and the rest of the text after a directive other than a zoned moment. -/
def takeSimple (directive : Directive) (fields : DateFields) (text : List Char) :
    Except DateFault (DateFields × List Char) :=
  match directive with
  | literal expected => (takeLiteral expected text).map fun rest => (fields, rest)
  | blanks => .ok (fields, Text.trimStart text)
  | numeric field => giving (Scan.fieldNumber field (Text.trimStart text)) (field.give fields)
  | shortMonth => giving (Scan.name Scan.monthNames false text) fun n => fields.giveMonth (n + 1)
  | longMonth => giving (Scan.name Scan.monthNames true text) fun n => fields.giveMonth (n + 1)
  | shortWeekday =>
      giving (Scan.name Scan.weekdayNames false text) fun n => fields.giveWeekday (.ofIndex n)
  | longWeekday =>
      giving (Scan.name Scan.weekdayNames true text) fun n => fields.giveWeekday (.ofIndex n)
  | half => giving (Scan.half text) fun n => fields.giveHalf n
  | fraction =>
      match text with
      | '.' :: rest => giving (Scan.fraction rest) fun n => fields.giveNano n
      | _ => .ok (fields, text)
  | pointedDigits count =>
      match text with
      | '.' :: rest => giving (Scan.fractionDigits count rest) fun n => fields.giveNano n
      | _ => .ok (fields, text)
  | fractionDigits count =>
      giving (Scan.fractionDigits count text) fun n => fields.giveNano n
  | zoneName => .ok (fields, text.dropWhile fun c => !Text.isBlank c)
  | zoneOffset => giving (Scan.offset false false (Text.trimStart text)) fields.giveOffset
  | lenientZoneOffset => giving (Scan.offset true true (Text.trimStart text)) fields.giveOffset
  | zonedMoment => .error .invalid

/-- The fields and the rest of the text after a list of directives, none of them a zoned moment. -/
def takeAllSimple (fields : DateFields) (text : List Char) :
    List Directive → Except DateFault (DateFields × List Char)
  | [] => .ok (fields, text)
  | directive :: rest => do
      let (fields, text) ← takeSimple directive fields text
      takeAllSimple fields text rest

/-- A date as documents and zoned moments have it. -/
def looseDate : List Directive :=
  [numeric .year, blanks, literal ['-'], numeric .month, blanks, literal ['-'], numeric .day]

/-- A time as documents and zoned moments have it. -/
def looseTime : List Directive :=
  [numeric .hour, blanks, literal [':'], numeric .minute, blanks, literal [':'], numeric .second,
   fraction, blanks]

/-- The zone of a zoned moment: `UTC` in any letter case, or an offset. -/
def takeMomentZone (fields : DateFields) (text : List Char) :
    Except DateFault (DateFields × List Char) :=
  if Text.lowered (text.take 3) = ['u', 't', 'c'] then
    giving (.ok (0, text.drop 3)) fields.giveOffset
  else giving (Scan.offset true false text) fields.giveOffset

/-- A date, a `T` or a blank, a time and a zone. -/
def takeZonedMoment (fields : DateFields) (text : List Char) :
    Except DateFault (DateFields × List Char) := do
  let (fields, text) ← takeAllSimple fields text looseDate
  let text ← match text with
    | [] => .error .tooShort
    | c :: rest => if c = 'T' ∨ c = 't' ∨ c = ' ' then .ok rest else .error .invalid
  let (fields, text) ← takeAllSimple fields text looseTime
  takeMomentZone fields (Text.trimStart text)

/-- The fields and the rest of the text after a directive. -/
def take (directive : Directive) (fields : DateFields) (text : List Char) :
    Except DateFault (DateFields × List Char) :=
  match directive with
  | zonedMoment => takeZonedMoment fields text
  | other => takeSimple other fields text

/-- The fields and the rest of the text after a list of directives. -/
def takeAll (fields : DateFields) (text : List Char) :
    List Directive → Except DateFault (DateFields × List Char)
  | [] => .ok (fields, text)
  | directive :: rest => do
      let (fields, text) ← directive.take fields text
      takeAll fields text rest

/-- The fields that a text gives when it matches a list of directives as a whole. -/
def fieldsOf (directives : List Directive) (text : List Char) : Except DateFault DateFields := do
  let (fields, rest) ← takeAll .empty text directives
  if rest = [] then .ok fields else .error .tooLong

end Directive

/-! ## Document dates -/

/-- The form of moments in documents. -/
def documentDirectives : List Directive :=
  Directive.looseDate ++ [.blanks, .literal ['T']] ++ Directive.looseTime

/-- The moment that a document writes. -/
def Moment.ofDocumentText (text : List Char) : Except DateFault Moment := do
  let fields ← Directive.fieldsOf documentDirectives text
  fields.toMoment

end BankStatement
