import BankStatement.Proofs.Calendar.Layouts
import BankStatement.Proofs.Calendar.Reading
import BankStatement.Proofs.Calendar.Written

/-!
# Days, months and years with a separator

A layout has the day, the month and the year in digits, with the same punctuation character between
them.  It reads the dates that are written in this way, unless the character is an underscore: then
the specifiers are not those of day, month and year, because `_2` is a part of the reference time,
and no date at all is read.

## Strategy

* For any other character the layout is made of parts and separators, so its specifiers are known
  (`Interleaved.specifiersOfLayout_eq`), and with them its directives.
* Day and month have two digits and the year has four.  These are the greatest widths of their
  fields, so each is read for itself, and only the separators are left
  (`DatePattern.fieldsOf_dayMonthYear`).
* The fields say a date but no time, so that the second attempt gives the date
  (`DateFields.toDate_ofDate`, `DateFields.toMoment_ofDate`).
* With an underscore, the directive after the month asks for a day, and finds the second underscore.

The main statement is `DatePattern.reads_dayMonthYear`.
-/

namespace BankStatement

/-! ## Numbers of a date -/

namespace Directive

variable {fields : DateFields}

theorem le_greatest {n : Nat} (h : n ≤ 9999) : n ≤ Scan.greatest :=
  h.trans (by decide)

theorem take_day (date : Date) (hnone : fields.day = none) (rest : List Char) :
    (numeric .day).take fields (Moment.two date.day ++ rest) =
      .ok ({ fields with day := some (date.day : Int) }, rest) := by
  have hlow := date.day_range.1
  have hhigh := date.day_le
  apply take_numeric rfl (Moment.hasWidth_day date) (by decide) (le_greatest (by omega))
  exact NumericField.give_day hnone (by omega)

theorem take_month (date : Date) (hnone : fields.month = none) (rest : List Char) :
    (numeric .month).take fields (Moment.two date.month ++ rest) =
      .ok ({ fields with month := some (date.month : Int) }, rest) := by
  have hrange := date.month_range
  apply take_numeric rfl (Moment.hasWidth_month date) (by decide) (le_greatest (by omega))
  exact NumericField.give_month hnone (by omega)

theorem year_in_range (date : Date) :
    DateFields.least32 ≤ date.year ∧ date.year ≤ DateFields.greatest32 := by
  have hrange := date.year_range
  unfold minYear maxYear at hrange
  unfold DateFields.least32 DateFields.greatest32
  omega

/-- A year is read as it is written: in four digits, or with a sign and up to the last digit. -/
theorem fieldNumber_yearText {date : Date} {rest : List Char}
    (h : date.FourDigitYear ∨ Decimal.EndsDigits rest) :
    Scan.fieldNumber .year (Moment.yearText date.year ++ rest) = .ok (date.year, rest) := by
  have hrange := year_in_range date
  unfold DateFields.least32 DateFields.greatest32 at hrange
  by_cases hyear : date.FourDigitYear
  · have hwidth := Moment.hasWidth_yearText hyear
    obtain ⟨year, hyear⟩ := Int.eq_ofNat_of_zero_le hyear.1
    rw [hyear] at hwidth hrange ⊢
    have hsmall : year ≤ Scan.greatest := by
      unfold Scan.greatest
      omega
    exact Scan.fieldNumber_of_hasWidth rfl hwidth (by decide) hsmall rest
  · have hsmall : Decimal.ofDigits (Decimal.paddedDigits 4 date.year.natAbs) ≤ Scan.greatest := by
      rw [Decimal.ofDigits_paddedDigits]
      unfold Scan.greatest
      omega
    have hpos : 0 < (Decimal.paddedDigits 4 date.year.natAbs).length :=
      Nat.lt_of_lt_of_le (by decide) (Decimal.le_length_paddedDigits 4 date.year.natAbs)
    have hnumber : Scan.number 1 none (Decimal.paddedDigits 4 date.year.natAbs ++ rest) =
        .ok (Decimal.ofDigits (Decimal.paddedDigits 4 date.year.natAbs), rest) :=
      Scan.number_of_endsDigits Decimal.isDigit_of_mem_paddedDigits hpos (h.resolve_left hyear)
        (fun most hmost => by cases hmost) hsmall
    rw [Decimal.ofDigits_paddedDigits] at hnumber
    rw [Moment.yearText_of_not_fourDigitYear hyear]
    by_cases hnegative : date.year < 0
    · have hvalue : -(date.year.natAbs : Int) = date.year := by omega
      rw [if_pos hnegative, List.cons_append, Scan.fieldNumber_minus rfl hnumber, hvalue]
    · have hvalue : (date.year.natAbs : Int) = date.year := by omega
      rw [if_neg hnegative, List.cons_append, Scan.fieldNumber_plus rfl hnumber, hvalue]

theorem trimStart_yearText (date : Date) (rest : List Char) :
    Text.trimStart (Moment.yearText date.year ++ rest) = Moment.yearText date.year ++ rest := by
  by_cases hyear : date.FourDigitYear
  · obtain ⟨c, others, htext, hc⟩ := (Moment.hasWidth_yearText hyear).head (by decide)
    rw [htext]
    exact Text.trimStart_cons (Text.isBlank_of_isDigit hc) _
  · rw [Moment.yearText_of_not_fourDigitYear hyear]
    refine Text.trimStart_cons ?_ _
    split <;> decide

theorem take_year {date : Date} {rest : List Char}
    (h : date.FourDigitYear ∨ Decimal.EndsDigits rest) (hnone : fields.year = none) :
    (numeric .year).take fields (Moment.yearText date.year ++ rest) =
      .ok ({ fields with year := some date.year }, rest) :=
  take_numeric_of_scan (trimStart_yearText date rest) (fieldNumber_yearText h)
    (NumericField.give_year hnone (year_in_range date))

end Directive

/-! ## The date of the fields -/

namespace DateFields

/-- The fields that say a date by its year, month and day. -/
def ofDate (date : Date) : DateFields :=
  { empty with year := some date.year, month := some date.month, day := some date.day }

theorem toDate_ofDate (date : Date) : (ofDate date).toDate = .ok date := by
  have hday : Date.ofDay? date.year date.month date.day = some date :=
    dif_pos ⟨date.year_range, date.month_range, date.day_range⟩
  have hweek : (ofDate date).allowsWeek date = true := by
    simp [allowsWeek, allowsCentury, allows, ofDate, empty]
  have hdays : (ofDate date).allowsDayOfYear date = true := rfl
  have hcandidate : (ofDate date).candidate = .ok date := by
    show checked (Date.ofDay? date.year date.month date.day)
      (fun found => (ofDate date).allowsWeek found && (ofDate date).allowsDayOfYear found) =
        .ok date
    rw [hday, checked, hweek, hdays]
    rfl
  rw [toDate, hcandidate]
  rfl

/-- Without a time there is no moment. -/
theorem toMoment_ofDate (date : Date) : (ofDate date).toMoment = .error .notEnough := by
  rw [toMoment, toDate_ofDate]
  rfl

end DateFields

/-! ## Layouts with a separator -/

/-- The punctuation characters of ASCII. -/
def IsPunctuation (c : Char) : Prop :=
  0x21 ≤ c.toNat ∧ c.toNat ≤ 0x7e ∧ c.isAlphanum = false

instance (c : Char) : Decidable (IsPunctuation c) :=
  inferInstanceAs (Decidable (0x21 ≤ c.toNat ∧ c.toNat ≤ 0x7e ∧ c.isAlphanum = false))

/-- A date in two digits of the day, two of the month and four of the year. -/
def Date.dayMonthYear (separator : Char) (date : Date) : String :=
  String.ofList (Moment.two date.day ++ separator ::
    (Moment.two date.month ++ separator :: Moment.yearText date.year))

namespace DatePattern

/-- The layout of the day, the month and the year. -/
def dayMonthYear (separator : Char) : DatePattern where
  source := String.ofList
    ("02".toList ++ separator :: ("01".toList ++ separator :: "2006".toList))

/-- The directives that are meant by that layout. -/
def dayMonthYearDirectives (separator : Char) : List Directive :=
  [.numeric .day, .literal [separator], .numeric .month, .literal [separator], .numeric .year]

variable {separator : Char} {date : Date}

theorem fieldsOf_dayMonthYear (separator : Char) (hyear : date.FourDigitYear) :
    Directive.fieldsOf (dayMonthYearDirectives separator)
      (date.dayMonthYear separator).toList = .ok (.ofDate date) := by
  have hall : Directive.takeAll .empty (date.dayMonthYear separator).toList
      (dayMonthYearDirectives separator) = .ok (.ofDate date, []) := by
    rw [Date.dayMonthYear, String.toList_ofList, ← List.append_nil (Moment.yearText date.year),
      dayMonthYearDirectives, Directive.takeAll_cons (Directive.take_day date rfl _),
      Directive.takeAll_cons (Directive.take_char separator _ _),
      Directive.takeAll_cons (Directive.take_month date rfl _),
      Directive.takeAll_cons (Directive.take_char separator _ _),
      Directive.takeAll_cons (Directive.take_year (.inl hyear) rfl)]
    rfl
  rw [Directive.fieldsOf, hall]
  rfl

theorem matchAll_dayMonthYear (separator : Char) (hyear : date.FourDigitYear) :
    matchAll (dayMonthYearDirectives separator) (date.dayMonthYear separator).toList =
      some (.ofDate date) := by
  rw [matchAll, fieldsOf_dayMonthYear separator hyear]
  simp only [DateFields.toMoment_ofDate, DateFields.toDate_ofDate]

theorem directives?_day (rest : List Char) :
    directives? ('%' :: 'd' :: rest) = (directives? rest).map ([.numeric .day] ++ ·) :=
  directives?_letter rfl

theorem directives?_month (rest : List Char) :
    directives? ('%' :: 'm' :: rest) = (directives? rest).map ([.numeric .month] ++ ·) :=
  directives?_letter rfl

theorem directives?_year (rest : List Char) :
    directives? ('%' :: 'Y' :: rest) = (directives? rest).map ([.numeric .year] ++ ·) :=
  directives?_letter rfl

/-- With any separator but an underscore the parts are what they are meant to be. -/
theorem directives?_dayMonthYear (hs : IsPunctuation separator) (hpercent : separator ≠ '%')
    (hunderscore : separator ≠ '_') :
    directives? (dayMonthYear separator).specifiers.toList =
      some (dayMonthYearDirectives separator) := by
  have hseparator : IsSeparator separator := ⟨hs.2.2, hpercent⟩
  have hno : separator = '_' → ∀ head, head ≠ some '2' := fun h => absurd h hunderscore
  have hlayout : Interleaved
      ("02".toList ++ separator :: ("01".toList ++ separator :: ("2006".toList ++ [])))
      ("%d".toList ++ separator :: ("%m".toList ++ separator :: ("%Y".toList ++ []))) :=
    .token ("02", "%d") (by decide) (.separator separator hseparator (fun h => hno h _)
      (.token ("01", "%m") (by decide) (.separator separator hseparator (fun h => hno h _)
        (.token ("2006", "%Y") (by decide) .nil))))
  rw [List.append_nil, List.append_nil] at hlayout
  have hblank := Text.isBlank_of_printable hs.1 hs.2.1
  rw [dayMonthYear, specifiers_ofList hlayout.percent_not_mem, String.toList_ofList,
    hlayout.specifiersOfLayout_eq]
  show directives? ('%' :: 'd' :: separator :: '%' :: 'm' :: separator :: ['%', 'Y']) = _
  rw [directives?_day, directives?_literal hpercent hblank, directives?_month,
    directives?_literal hpercent hblank, directives?_year, directives?_nil]
  rfl

/-! ## Underscores -/

/-- After an underscore the year is not found, because `_2` is. -/
theorem specifiers_dayMonthYear_underscore :
    (dayMonthYear '_').specifiers = "%d_%m%e0%y" := by
  have hday : ("02", "%d") ∈ referenceTokens := by decide
  have hmonth : ("01", "%m") ∈ referenceTokens := by decide
  have hyear : ("06", "%y") ∈ referenceTokens := by decide
  have hlayout : specifiersOfLayout "02_01_2006".toList = "%d_%m%e0%y".toList := by
    calc specifiersOfLayout "02_01_2006".toList
        = "%d".toList ++ specifiersOfLayout ('_' :: "01_2006".toList) :=
          specifiersOfLayout_of_some hday (by decide)
      _ = "%d_".toList ++ specifiersOfLayout ("01".toList ++ "_2006".toList) := by
          rw [specifiersOfLayout_of_none (by decide)]
          rfl
      _ = "%d_%m".toList ++ specifiersOfLayout ('_' :: '2' :: "006".toList) := by
          rw [specifiersOfLayout_of_some hmonth (by decide)]
          rfl
      _ = "%d_%m%e".toList ++ specifiersOfLayout ('0' :: "06".toList) := by
          rw [specifiersOfLayout_underscore]
          rfl
      _ = "%d_%m%e0".toList ++ specifiersOfLayout ("06".toList ++ []) := by
          rw [specifiersOfLayout_of_none (by decide)]
          rfl
      _ = "%d_%m%e0%y".toList := by
          rw [specifiersOfLayout_of_some hyear (by decide), specifiersOfLayout]
          rfl
  rw [dayMonthYear, specifiers_ofList (by decide)]
  exact congrArg String.ofList hlayout

/-- The directives that are found instead. -/
def underscoreDirectives : List Directive :=
  [.numeric .day, .literal ['_'], .numeric .month, .numeric .day, .literal ['0'],
   .numeric .yearOfCentury]

theorem directives?_dayMonthYear_underscore :
    directives? (dayMonthYear '_').specifiers.toList = some underscoreDirectives := by
  have hblankDay : ∀ rest, specifier? ('e' :: rest) = some ([.numeric .day], 1) := fun _ => rfl
  have hyear : specifier? ['y'] = some ([.numeric .yearOfCentury], 1) := rfl
  rw [specifiers_dayMonthYear_underscore]
  show directives? ('%' :: 'd' :: '_' :: '%' :: 'm' :: '%' :: 'e' :: '0' :: ['%', 'y']) = _
  rw [directives?_day, directives?_literal (by decide) (by decide), directives?_month,
    directives?_letter (hblankDay _), directives?_literal (by decide) (by decide),
    directives?_letter hyear, directives?_nil]
  rfl

/-- The directive after the month asks for a day and finds the second underscore. -/
theorem takeAll_underscoreDirectives (date : Date) :
    Directive.takeAll .empty (date.dayMonthYear '_').toList underscoreDirectives =
      .error .invalid := by
  have hdigit : Decimal.isDigit '_' = false := by decide
  have htrim : ∀ rest, Text.trimStart ('_' :: rest) = '_' :: rest := Text.trimStart_cons (by decide)
  have hfault : ∀ fields rest,
      (Directive.numeric .day).take fields ('_' :: rest) = .error .invalid := by
    intro fields rest
    show Directive.giving (Scan.fieldNumber .day (Text.trimStart ('_' :: rest)))
      (NumericField.give .day fields) = .error .invalid
    rw [htrim, Scan.fieldNumber_of_not_isDigit rfl hdigit]
    rfl
  rw [Date.dayMonthYear, String.toList_ofList, underscoreDirectives,
    Directive.takeAll_cons (Directive.take_day date rfl _),
    Directive.takeAll_cons (Directive.take_char '_' _ _),
    Directive.takeAll_cons (Directive.take_month date rfl _),
    Directive.takeAll_of_error (hfault _ _)]

theorem read?_underscore (date : Date) :
    (dayMonthYear '_').read? (date.dayMonthYear '_') = none := by
  have hfields : Directive.fieldsOf underscoreDirectives (date.dayMonthYear '_').toList =
      .error .invalid := by
    rw [Directive.fieldsOf, takeAll_underscoreDirectives]
    rfl
  rw [read?, directives?_dayMonthYear_underscore]
  show matchAll underscoreDirectives (date.dayMonthYear '_').toList = none
  rw [matchAll, hfields]

/-! ## Dates in their own layout -/

/-- **Layouts with a separator read their own dates.**  For every punctuation character but the
percent sign, the layout reads each date that is written with this character as the midnight of that
date.  With an underscore it reads none of them. -/
theorem reads_dayMonthYear (hs : IsPunctuation separator) (hpercent : separator ≠ '%')
    (hyear : date.FourDigitYear) :
    (dayMonthYear separator).read? (date.dayMonthYear separator) =
      if separator = '_' then none else some (.ofDate date) := by
  split
  · next hunderscore =>
      rw [hunderscore]
      exact read?_underscore date
  · next hunderscore =>
      rw [read?, directives?_dayMonthYear hs hpercent hunderscore]
      exact matchAll_dayMonthYear separator hyear

/-- The fifth of March 2024. -/
def fifthOfMarch : Date :=
  (Date.ofDay? 2024 3 5).get (by decide)

theorem dayMonthYear_fifthOfMarch (separator : Char) :
    fifthOfMarch.dayMonthYear separator =
      String.ofList ['0', '5', separator, '0', '3', separator, '2', '0', '2', '4'] := by
  have hday : Moment.two 5 = ['0', '5'] := by
    simp [Moment.two, Decimal.paddedDigits, Decimal.digits, Decimal.digitChar]
  have hmonth : Moment.two 3 = ['0', '3'] := by
    simp [Moment.two, Decimal.paddedDigits, Decimal.digits, Decimal.digitChar]
  have hyear : Moment.yearText 2024 = ['2', '0', '2', '4'] := by
    simp [Moment.yearText, Decimal.paddedDigits, Decimal.digits, Decimal.digitChar]
  show String.ofList (Moment.two 5 ++ separator ::
    (Moment.two 3 ++ separator :: Moment.yearText 2024)) = _
  rw [hday, hmonth, hyear]
  rfl

/-- With slashes the date is read. -/
theorem reads_dayMonthYear_slash :
    IsPunctuation '/' ∧ '/' ≠ '%' ∧ fifthOfMarch.FourDigitYear ∧
      (DatePattern.mk "02/01/2006").read? "05/03/2024" = some (.ofDate fifthOfMarch) := by
  have hs : IsPunctuation '/' := by decide
  have hyear : fifthOfMarch.FourDigitYear := by decide
  have hread := reads_dayMonthYear hs (by decide) hyear
  rw [dayMonthYear_fifthOfMarch, if_neg (by decide)] at hread
  exact ⟨hs, by decide, hyear, hread⟩

/-- With underscores it is not, because the layout then means something else. -/
theorem reads_underscores :
    IsPunctuation '_' ∧ '_' ≠ '%' ∧ fifthOfMarch.FourDigitYear ∧
      (DatePattern.mk "02_01_2006").specifiers = "%d_%m%e0%y" ∧
      (DatePattern.mk "02_01_2006").read? "05_03_2024" = none := by
  have hnone := read?_underscore fifthOfMarch
  rw [dayMonthYear_fifthOfMarch] at hnone
  exact ⟨by decide, by decide, by decide, specifiers_dayMonthYear_underscore, hnone⟩

end DatePattern

end BankStatement
