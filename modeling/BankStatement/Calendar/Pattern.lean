import BankStatement.Calendar.Directive

/-!
# Date patterns

A date pattern is written in one of two ways: with specifiers after percent signs, or as a layout of
the reference time, Monday the second of January 2006, 15:04:05 in zone `MST` at seven hours west.
A layout is turned into specifiers by replacing the parts of the reference time, so that both are
read in the same way.
-/

namespace BankStatement

/-! ## Reference layouts -/

/-- The parts of the reference time with their specifiers.  Where two could be replaced, the first
in the list is. -/
def referenceTokens : List (String × String) :=
  [("January", "%B"), ("Monday", "%A"), ("2006", "%Y"), ("Z07:00", "%#z"), ("Z0700", "%#z"),
   ("-07:00", "%:z"), ("-0700", "%z"), ("Jan", "%b"), ("Mon", "%a"), ("MST", "%Z"), ("_2", "%e"),
   ("01", "%m"), ("02", "%d"), ("03", "%I"), ("04", "%M"), ("05", "%S"), ("06", "%y"),
   ("15", "%H"), ("PM", "%p"), ("pm", "%p"), ("1", "%m"), ("2", "%d")]

/-- A layout with the parts of the reference time replaced, from left to right. -/
def specifiersOfLayout (layout : List Char) : List Char :=
  match layout with
  | [] => []
  | c :: rest =>
      match referenceTokens.find? fun token => token.1.toList.isPrefixOf (c :: rest) with
      | some token => token.2.toList ++ specifiersOfLayout (rest.drop (token.1.length - 1))
      | none => c :: specifiersOfLayout rest
termination_by layout.length
decreasing_by all_goals simp only [List.length_drop, List.length_cons]; omega

/-! ## Specifiers -/

/-- The directives of a specifier letter. -/
def directivesOfLetter? : Char → Option (List Directive)
  | 'A' => some [.longWeekday]
  | 'B' => some [.longMonth]
  | 'C' => some [.numeric .century]
  | 'D' => some [.numeric .month, .literal ['/'], .numeric .day, .literal ['/'],
      .numeric .yearOfCentury]
  | 'F' => some [.numeric .year, .literal ['-'], .numeric .month, .literal ['-'], .numeric .day]
  | 'G' => some [.numeric .weekYear]
  | 'H' => some [.numeric .hour]
  | 'I' => some [.numeric .hourOfHalf]
  | 'M' => some [.numeric .minute]
  | 'P' => some [.half]
  | 'R' => some [.numeric .hour, .literal [':'], .numeric .minute]
  | 'S' => some [.numeric .second]
  | 'T' => some [.numeric .hour, .literal [':'], .numeric .minute, .literal [':'],
      .numeric .second]
  | 'U' => some [.numeric .weekFromSunday]
  | 'V' => some [.numeric .week]
  | 'W' => some [.numeric .weekFromMonday]
  | 'X' => some [.numeric .hour, .literal [':'], .numeric .minute, .literal [':'],
      .numeric .second]
  | 'Y' => some [.numeric .year]
  | 'Z' => some [.zoneName]
  | 'a' => some [.shortWeekday]
  | 'b' => some [.shortMonth]
  | 'c' => some [.shortWeekday, .blanks, .shortMonth, .blanks, .numeric .day, .blanks,
      .numeric .hour, .literal [':'], .numeric .minute, .literal [':'], .numeric .second, .blanks,
      .numeric .year]
  | 'd' => some [.numeric .day]
  | 'e' => some [.numeric .day]
  | 'f' => some [.numeric .nano]
  | 'g' => some [.numeric .weekYearOfCentury]
  | 'h' => some [.shortMonth]
  | 'j' => some [.numeric .dayOfYear]
  | 'k' => some [.numeric .hour]
  | 'l' => some [.numeric .hourOfHalf]
  | 'm' => some [.numeric .month]
  | 'n' => some [.blanks]
  | 'p' => some [.half]
  | 'q' => some [.numeric .quarter]
  | 'r' => some [.numeric .hourOfHalf, .literal [':'], .numeric .minute, .literal [':'],
      .numeric .second, .blanks, .half]
  | 's' => some [.numeric .timestamp]
  | 't' => some [.blanks]
  | 'u' => some [.numeric .dayFromMonday]
  | 'v' => some [.numeric .day, .literal ['-'], .shortMonth, .literal ['-'], .numeric .year]
  | 'w' => some [.numeric .dayFromSunday]
  | 'x' => some [.numeric .month, .literal ['/'], .numeric .day, .literal ['/'],
      .numeric .yearOfCentury]
  | 'y' => some [.numeric .yearOfCentury]
  | 'z' => some [.zoneOffset]
  | '+' => some [.zonedMoment]
  | '%' => some [.literal ['%']]
  | _ => none

/-- The directives of a specifier after its percent sign, and how many characters it has.  A padding
mark, which matters only for writing, may stand before a single number. -/
def specifier? (text : List Char) : Option (List Directive × Nat) :=
  match text with
  | [] => none
  | '#' :: 'z' :: _ => some ([.lenientZoneOffset], 2)
  | ':' :: ':' :: ':' :: 'z' :: _ => some ([.zoneOffset], 4)
  | ':' :: ':' :: 'z' :: _ => some ([.zoneOffset], 3)
  | ':' :: 'z' :: _ => some ([.zoneOffset], 2)
  | '.' :: 'f' :: _ => some ([.fraction], 2)
  | '.' :: '3' :: 'f' :: _ => some ([.pointedDigits 3], 3)
  | '.' :: '6' :: 'f' :: _ => some ([.pointedDigits 6], 3)
  | '.' :: '9' :: 'f' :: _ => some ([.pointedDigits 9], 3)
  | '3' :: 'f' :: _ => some ([.fractionDigits 3], 2)
  | '6' :: 'f' :: _ => some ([.fractionDigits 6], 2)
  | '9' :: 'f' :: _ => some ([.fractionDigits 9], 2)
  | mark :: rest =>
      if mark = '-' ∨ mark = '0' ∨ mark = '_' then
        match rest with
        | [] => none
        | letter :: _ =>
            match directivesOfLetter? letter with
            | some [.numeric field] => some ([.numeric field], 2)
            | _ => none
      else (directivesOfLetter? mark).map fun directives => (directives, 1)

/-- Whether a character of a pattern stands for itself. -/
def isLiteral (c : Char) : Bool :=
  c != '%' && !Text.isBlank c

/-- The directives of a text with specifiers.  A text with something after a percent sign that is no
specifier has none. -/
def directives? (text : List Char) : Option (List Directive) :=
  match text with
  | [] => some []
  | '%' :: rest =>
      match specifier? rest with
      | none => none
      | some (directives, count) => (directives? (rest.drop count)).map (directives ++ ·)
  | c :: rest =>
      if Text.isBlank c then (directives? (rest.dropWhile Text.isBlank)).map (.blanks :: ·)
      else (directives? (rest.dropWhile isLiteral)).map
        (.literal (c :: rest.takeWhile isLiteral) :: ·)
termination_by text.length
decreasing_by
  · simp only [List.length_drop, List.length_cons]
    omega
  · exact Nat.lt_succ_of_le (List.dropWhile_sublist _).length_le
  · exact Nat.lt_succ_of_le (List.dropWhile_sublist _).length_le

/-! ## Patterns -/

/-- A date pattern as it is written. -/
structure DatePattern where
  source : String
deriving DecidableEq, Repr

namespace DatePattern

/-- The pattern in specifiers.  A pattern with a percent sign is one already. -/
def specifiers (pattern : DatePattern) : String :=
  if pattern.source.toList.contains '%' then pattern.source
  else String.ofList (specifiersOfLayout pattern.source.toList)

/-- The moment that a text says when it is matched against directives: a date and a time, or a date
alone, which stands for its midnight. -/
def matchAll (directives : List Directive) (text : List Char) : Option Moment :=
  match Directive.fieldsOf directives text with
  | .error _ => none
  | .ok fields =>
      match fields.toMoment with
      | .ok moment => some moment
      | .error _ =>
          match fields.toDate with
          | .ok date => some (.ofDate date)
          | .error _ => none

/-- The moment that a token says, if it matches the pattern. -/
def read? (pattern : DatePattern) (token : String) : Option Moment :=
  match directives? pattern.specifiers.toList with
  | none => none
  | some directives => matchAll directives token.toList

end DatePattern

end BankStatement
