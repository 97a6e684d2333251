import BankStatement.Proofs.Calendar.DayMonthYear
import BankStatement.Proofs.Calendar.TimeFields

/-!
# Dates in documents

A document writes a moment with all of its parts, and reads it back from them, whatever its year is
and whether it has a fraction of a second.  Only a leap second that does not end its minute is lost:
it looks like the second after it, and is read as that (`Moment.ofDocumentText_documentText`,
`Moment.shown_eq_iff`).

## Strategy

* Every directive of the form takes its own part off the front of the text and leaves the others.  A
  year with a sign and a fraction have no fixed width, but no digit follows them
  (`Directive.take_year`, `Directive.take_fraction`).
* So the fields are those of the date and of the time as a clock shows it (`DateFields.ofMoment`).
* Second 60 is shown in the leap second at the end of a minute, and never else.  So what a clock
  shows is the time itself in the last second of a minute, and before that the time with the second
  and the fraction that are shown (`TimeOfDay.shown`, `TimeOfDay.ofShown?_shown`).
-/

namespace BankStatement

/-! ## Parts of a time -/

namespace Moment

theorem hasWidth_hour (time : TimeOfDay) : Decimal.HasWidth 2 time.hour (two time.hour) := by
  have hhour := time.hour_range
  exact hasWidth_two (by omega)

theorem hasWidth_minute (time : TimeOfDay) : Decimal.HasWidth 2 time.minute (two time.minute) := by
  have hminute := time.minute_range
  exact hasWidth_two (by omega)

end Moment

/-- A clock shows no second after 60. -/
theorem TimeOfDay.shownSecond_le (time : TimeOfDay) : time.shownSecond ≤ 60 := by
  have hsecond := time.second_range
  have hnano := time.nano_range
  unfold shownSecond
  omega

theorem TimeOfDay.shownNano_lt (time : TimeOfDay) : time.shownNano < 1000000000 :=
  Nat.mod_lt _ (by decide)

namespace TimeOfDay

/-- The time that a clock shows, which is another one in a leap second that does not end its minute.
-/
def shown (time : TimeOfDay) : TimeOfDay :=
  if hbefore : time.second < 59 then
    { time with
      second := time.shownSecond
      nano := time.shownNano
      second_range := by
        have hnano := time.nano_range
        unfold shownSecond
        omega
      nano_range := Nat.lt_trans time.shownNano_lt (by decide) }
  else time

/-- A leap second is the last one of its minute. -/
def LeapEndsMinute (time : TimeOfDay) : Prop :=
  1000000000 ≤ time.nano → time.second = 59

instance (time : TimeOfDay) : Decidable time.LeapEndsMinute :=
  inferInstanceAs (Decidable (1000000000 ≤ time.nano → time.second = 59))

theorem shown_eq_iff (time : TimeOfDay) : time.shown = time ↔ time.LeapEndsMinute := by
  have hrange := time.second_range
  unfold shown LeapEndsMinute
  split
  · constructor
    · intro h hleap
      have hnano : time.shownNano = time.nano := congrArg nano h
      unfold shownNano at hnano
      omega
    · intro hends
      have hsecond : time.shownSecond = time.second := by
        unfold shownSecond
        omega
      have hnano : time.shownNano = time.nano := by
        unfold shownNano
        omega
      simp only [hsecond, hnano]
  · exact iff_of_true rfl fun _ => by omega

end TimeOfDay

namespace Scan

/-- The digits of a fraction, as nanoseconds. -/
theorem fraction_paddedDigits {places n : Nat} (hplaces : 0 < places) (hmost : places ≤ 9)
    (hn : n < 10 ^ places) :
    fraction (Decimal.paddedDigits places n) = .ok (n * 10 ^ (9 - places), []) := by
  obtain ⟨hlength, hdigits, hvalue⟩ := Decimal.hasWidth_paddedDigits hplaces hn
  have hsmall : Decimal.ofDigits (Decimal.paddedDigits places n) ≤ greatest := by
    have hpow := Nat.pow_le_pow_right (show 0 < 10 by decide) hmost
    rw [Decimal.ofDigits_paddedDigits]
    unfold greatest
    omega
  have hnine : ∀ most ∈ some 9, (Decimal.paddedDigits places n).length ≤ most := by
    rintro most ⟨⟩
    omega
  have hnumber : number 1 (some 9) (Decimal.paddedDigits places n ++ []) =
      .ok (Decimal.ofDigits (Decimal.paddedDigits places n), []) :=
    number_of_endsDigits hdigits (by omega) (fun c hc => by cases hc) hnine hsmall
  rw [List.append_nil, Decimal.ofDigits_paddedDigits] at hnumber
  unfold fraction
  rw [hnumber]
  show Except.ok (n * Nat.pow 10 (9 - ((Decimal.paddedDigits places n).length - 0)), []) = _
  rw [hlength]
  rfl

end Scan

namespace Directive

variable {fields : DateFields}

/-- A separator, before which blanks could stand. -/
theorem takeAll_separator {c : Char} (hc : Text.isBlank c = false) (rest : List Char)
    (directives : List Directive) :
    takeAll fields (c :: rest) (blanks :: literal [c] :: directives) =
      takeAll fields rest directives := by
  have hblanks : blanks.take fields (c :: rest) = .ok (fields, c :: rest) := by
    show Except.ok (fields, Text.trimStart (c :: rest)) = _
    rw [Text.trimStart_cons hc]
  rw [takeAll_cons hblanks, takeAll_cons (take_char c rest fields)]

theorem take_hour (time : TimeOfDay) (hhalf : fields.half = none) (hhour : fields.hourOfHalf = none)
    (rest : List Char) :
    (numeric .hour).take fields (Moment.two time.hour ++ rest) =
      .ok ({ fields with half := some (time.hour / 12), hourOfHalf := some (time.hour % 12) },
        rest) := by
  have hrange := time.hour_range
  apply take_numeric rfl (Moment.hasWidth_hour time) (by decide) (le_greatest (by omega))
  exact NumericField.give_hour hhalf hhour (by omega)

theorem take_minute (time : TimeOfDay) (hnone : fields.minute = none) (rest : List Char) :
    (numeric .minute).take fields (Moment.two time.minute ++ rest) =
      .ok ({ fields with minute := some (time.minute : Int) }, rest) := by
  have hrange := time.minute_range
  apply take_numeric rfl (Moment.hasWidth_minute time) (by decide) (le_greatest (by omega))
  exact NumericField.give_minute hnone (by omega)

theorem take_second (time : TimeOfDay) (hnone : fields.second = none) (rest : List Char) :
    (numeric .second).take fields (Moment.two time.shownSecond ++ rest) =
      .ok ({ fields with second := some (time.shownSecond : Int) }, rest) := by
  have hrange := time.shownSecond_le
  apply take_numeric rfl (Moment.hasWidth_two (Moment.shownSecond_lt time)) (by decide)
    (le_greatest (by omega))
  exact NumericField.give_second hnone (by omega)

/-- A point and some digits of a fraction. -/
theorem take_point {places n nano : Nat} (hplaces : 0 < places) (hmost : places ≤ 9)
    (hn : n < 10 ^ places) (hvalue : n * 10 ^ (9 - places) = nano) (hnano : nano < 1000000000)
    (hnone : fields.nano = none) :
    fraction.take fields ('.' :: Decimal.paddedDigits places n) =
      .ok ({ fields with nano := some (nano : Int) }, []) := by
  have hgive := NumericField.give_nano hnone (n := nano) (by omega)
  show giving (Scan.fraction (Decimal.paddedDigits places n)) (fun n => fields.giveNano n) = _
  rw [Scan.fraction_paddedDigits hplaces hmost hn, hvalue]
  show (NumericField.nano.give fields nano).bind (fun fields => .ok (fields, [])) = _
  rw [hgive]
  rfl

/-- The fraction of a second is given, unless there is none. -/
theorem take_fraction {nano : Nat} (hnano : nano < 1000000000) (hnone : fields.nano = none) :
    fraction.take fields (Moment.fractionText nano) =
      .ok ({ fields with nano := if nano = 0 then none else some (nano : Int) }, []) := by
  unfold Moment.fractionText
  split
  · rw [← hnone]
    rfl
  · split
    · exact take_point (by decide) (by decide) (by omega) (by omega) hnano hnone
    · split
      · exact take_point (by decide) (by decide) (by omega) (by omega) hnano hnone
      · exact take_point (by decide) (by decide) hnano (Nat.mul_one nano) hnano hnone

end Directive

/-! ## Moments -/

/-- The fields that say a moment by its date and by what a clock shows. -/
def DateFields.ofMoment (m : Moment) : DateFields :=
  { ofDate m.date with
    half := some (m.time.hour / 12)
    hourOfHalf := some (m.time.hour % 12)
    minute := some m.time.minute
    second := some m.time.shownSecond
    nano := if m.time.shownNano = 0 then none else some m.time.shownNano }

/-- A clock shows second 60 only at the end of a minute. -/
theorem TimeOfDay.ofShown?_shown (time : TimeOfDay) :
    ofShown? time.hour time.minute time.shownSecond time.shownNano = some time.shown := by
  have hrange := time.second_range
  have hfraction := time.nano_range
  have hsecond : time.shownSecond = time.second + time.nano / 1000000000 := rfl
  have hnano : time.shownNano = time.nano % 1000000000 := rfl
  unfold ofShown?
  by_cases hbefore : time.second < 59
  · rw [shown, dif_pos hbefore, if_neg (by omega), Int.toNat_natCast, Int.toNat_natCast,
      Int.toNat_natCast, Int.toNat_natCast]
    exact dif_pos ⟨time.hour_range, time.minute_range, by omega, .inl time.shownNano_lt⟩
  · have hparts : ofParts? time.hour time.minute time.second time.nano = some time :=
      dif_pos ⟨time.hour_range, time.minute_range, hrange, by omega⟩
    rw [shown, dif_neg hbefore]
    split
    · have hleap : 59 = time.second := by omega
      have hwhole : (1000000000 + (time.shownNano : Int)).toNat = time.nano := by omega
      rw [hleap, hwhole, Int.toNat_natCast, Int.toNat_natCast, hparts]
    · have hsame : time.shownSecond = time.second := by omega
      have hwhole : time.shownNano = time.nano := by omega
      rw [hsame, hwhole, Int.toNat_natCast, Int.toNat_natCast, Int.toNat_natCast,
        Int.toNat_natCast, hparts]

/-- The moment that is shown. -/
def Moment.shown (m : Moment) : Moment :=
  { m with time := m.time.shown }

theorem Moment.shown_eq_iff (m : Moment) : m.shown = m ↔ m.time.LeapEndsMinute := by
  rw [← TimeOfDay.shown_eq_iff]
  exact ⟨fun h => congrArg time h, fun h => congrArg (Moment.mk m.date) h⟩

theorem DateFields.toMoment_ofMoment (m : Moment) : (ofMoment m).toMoment = .ok m.shown := by
  have hdate : (ofMoment m).toDate = .ok m.date := toDate_ofDate m.date
  have hnano : (ofMoment m).nano.getD 0 = m.time.shownNano := by
    show (if m.time.shownNano = 0 then none else some (m.time.shownNano : Int)).getD 0 = _
    split
    · next hzero => rw [hzero]; rfl
    · rfl
  have hhour : (m.time.hour : Int) / 12 * 12 + m.time.hour % 12 = m.time.hour := by omega
  have htime : (ofMoment m).toTime = .ok m.time.shown := by
    refine toTime_of_shown rfl rfl rfl (.inr (Option.some_ne_none _)) ?_
    rw [hnano, hhour]
    exact TimeOfDay.ofShown?_shown m.time
  rw [toMoment_eq rfl, hdate, htime]
  rfl

namespace Moment

theorem takeAll_documentText (m : Moment) :
    Directive.takeAll .empty m.documentText documentDirectives = .ok (.ofMoment m, []) := by
  have hdash : Text.isBlank '-' = false := by decide
  have hcolon : Text.isBlank ':' = false := by decide
  have hletter : Text.isBlank 'T' = false := by decide
  have hyear : ∀ rest, Decimal.EndsDigits ('-' :: rest) := Decimal.endsDigits_cons (by decide)
  rw [documentText, dashedDate, colonedTime]
  simp only [List.append_assoc, List.cons_append]
  show Directive.takeAll .empty _ [.numeric .year, .blanks, .literal ['-'], .numeric .month,
    .blanks, .literal ['-'], .numeric .day, .blanks, .literal ['T'], .numeric .hour, .blanks,
    .literal [':'], .numeric .minute, .blanks, .literal [':'], .numeric .second, .fraction,
    .blanks] = _
  rw [Directive.takeAll_cons (Directive.take_year (.inr (hyear _)) rfl),
    Directive.takeAll_separator hdash, Directive.takeAll_cons (Directive.take_month m.date rfl _),
    Directive.takeAll_separator hdash, Directive.takeAll_cons (Directive.take_day m.date rfl _),
    Directive.takeAll_separator hletter,
    Directive.takeAll_cons (Directive.take_hour m.time rfl rfl _),
    Directive.takeAll_separator hcolon, Directive.takeAll_cons (Directive.take_minute m.time rfl _),
    Directive.takeAll_separator hcolon, Directive.takeAll_cons (Directive.take_second m.time rfl _),
    Directive.takeAll_cons (Directive.take_fraction m.time.shownNano_lt rfl)]
  rfl

theorem fieldsOf_documentText (m : Moment) :
    Directive.fieldsOf documentDirectives m.documentText = .ok (.ofMoment m) := by
  rw [Directive.fieldsOf, takeAll_documentText]
  rfl

/-- **Moments in documents are read back as they are shown.** -/
theorem ofDocumentText_documentText (m : Moment) : ofDocumentText m.documentText = .ok m.shown := by
  rw [ofDocumentText, fieldsOf_documentText]
  exact DateFields.toMoment_ofMoment m

end Moment

end BankStatement
