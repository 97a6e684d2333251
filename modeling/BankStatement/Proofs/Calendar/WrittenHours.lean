import BankStatement.Proofs.Calendar.DayMonthYear
import BankStatement.Proofs.Calendar.TimeFields

/-!
# Written hours

A pattern may ask for an hour.  When a token is read with it, the moment has either the hour that
the token writes or none at all, because the date is taken alone when date and time together are not
complete: this happens when the pattern asks for no minute, for a fraction without a second, or for
a timestamp that does not agree.

## Strategy

* An hour gives both of its fields at once, and these stay to the end
  (`Directive.WritesHour.time`).
* The time is made of them, also the one that is found by a timestamp, since that only adds to the
  fields (`DateFields.hour_of_toMoment`).
* Without a timestamp the moment is the date and the time (`DateFields.toMoment_eq`).  There is a
  time just when there is a minute, and a second if there is a fraction of it
  (`DateFields.of_toTime`, `DateFields.exists_toTime`).

The main statement is `DatePattern.reads_hour`.
-/

namespace BankStatement

/-! ## The hour of the fields -/

namespace DateFields

variable {f g : DateFields} {n : Int} {m : Moment}

/-- The time is that of the hour that the fields give. -/
theorem hour_of_toTime {time : TimeOfDay} (hn : 0 ≤ n) (hhalf : f.time .half = some (n / 12))
    (hhour : f.time .hourOfHalf = some (n % 12)) (h : f.toTime = .ok time) : time.hour = n := by
  obtain ⟨half, hour, _, hhalf', hhour', _, _, heq⟩ := of_toTime h
  obtain rfl : half = n / 12 := Option.some.inj (hhalf'.symm.trans hhalf)
  obtain rfl : hour = n % 12 := Option.some.inj (hhour'.symm.trans hhour)
  rw [heq]
  omega

/-- The fields of a moment are given in addition to those that are there. -/
theorem time_of_giveMoment (h : f.giveMoment m = .ok g) (field : TimeField)
    (hfield : f.time field = some n) : g.time field = some n := by
  have hstart : ∃ start : DateFields, start.time field = some n ∧
      (do
        let f ← start.giveYear m.date.year
        let f ← f.giveDayOfYear m.date.dayOfYear
        let f ← f.giveHour m.time.hour
        f.giveMinute m.time.minute) = Except.ok g := by
    unfold giveMoment at h
    split at h
    · exact ⟨f, hfield, h⟩
    · obtain ⟨start, hsecond, h⟩ := bind_eq_ok h
      exact ⟨start, (NumericField.second.reads_give hsecond).keeps field n hfield, h⟩
  obtain ⟨start, hstart, h⟩ := hstart
  obtain ⟨years, hyear, h⟩ := bind_eq_ok h
  obtain ⟨days, hday, h⟩ := bind_eq_ok h
  obtain ⟨hours, hhour, hminute⟩ := bind_eq_ok h
  have hyears := (NumericField.year.reads_give hyear).keeps field n hstart
  have hdays := (NumericField.dayOfYear.reads_give hday).keeps field n hyears
  have hhours := (NumericField.hour.reads_give hhour).keeps field n hdays
  exact (NumericField.minute.reads_give hminute).keeps field n hhours

/-- The moment of a timestamp is made of the fields and those of some moment. -/
theorem of_momentOfTimestamp {timestamp : Int} (h : f.momentOfTimestamp timestamp = .ok m) :
    ∃ found given, f.giveMoment found = .ok given ∧ given.toTime = .ok m.time := by
  have hgiven : ∃ found, (do
      let given ← f.giveMoment found
      let date ← given.toDate
      let time ← given.toTime
      return (⟨date, time⟩ : Moment)) = Except.ok m := by
    unfold momentOfTimestamp at h
    split at h
    · cases h
    · dsimp only at h
      split at h
      · split at h
        · exact ⟨_, h⟩
        · cases h
      · split at h
        · cases h
        · exact ⟨_, h⟩
  obtain ⟨found, h⟩ := hgiven
  obtain ⟨given, hgiven, h⟩ := bind_eq_ok h
  obtain ⟨date, _, h⟩ := bind_eq_ok h
  obtain ⟨time, htime, h⟩ := bind_eq_ok h
  cases h
  exact ⟨found, given, hgiven, htime⟩

/-- The moment has the hour that the fields give, also when it is that of a timestamp. -/
theorem hour_of_toMoment (hn : 0 ≤ n) (hhalf : f.time .half = some (n / 12))
    (hhour : f.time .hourOfHalf = some (n % 12)) (h : f.toMoment = .ok m) : m.time.hour = n := by
  unfold toMoment at h
  split at h
  · next htime =>
      obtain ⟨_, h⟩ := of_ite_eq_ok h
      cases h
      exact hour_of_toTime hn hhalf hhour htime
  · split at h
    · next timestamp _ =>
        split at h
        · cases h
        · split at h
          · cases h
          · obtain ⟨found, given, hgiven, htime⟩ := of_momentOfTimestamp h
            exact hour_of_toTime hn (time_of_giveMoment hgiven .half hhalf)
              (time_of_giveMoment hgiven .hourOfHalf hhour) htime
    · obtain ⟨date, _, h⟩ := bind_eq_ok h
      obtain ⟨time, htime, h⟩ := bind_eq_ok h
      cases h
      exact hour_of_toTime hn hhalf hhour htime

end DateFields

/-! ## Hours in texts -/

namespace Directive

variable {f g : DateFields} {text rest : List Char} {directives : List Directive} {n : Int}

/-- Whether a text writes this number where one of the directives asks for an hour. -/
def WritesHour (directives : List Directive) (text : List Char) (hour : Int) : Prop :=
  ∃ before after fields rest others, directives = before ++ numeric .hour :: after ∧
    takeAll .empty text before = .ok (fields, rest) ∧
    Scan.fieldNumber .hour (Text.trimStart rest) = .ok (hour, others)

theorem takeAll_append_eq_ok {before after : List Directive}
    (h : takeAll f text (before ++ after) = .ok (g, rest)) :
    ∃ middle left, takeAll f text before = .ok (middle, left) ∧
      takeAll middle left after = .ok (g, rest) := by
  induction before generalizing f text with
  | nil => exact ⟨f, text, rfl, h⟩
  | cons directive before ih =>
      obtain ⟨⟨next, left⟩, hfirst, h⟩ := DateFields.bind_eq_ok h
      obtain ⟨middle, beyond, hbefore, hafter⟩ := ih h
      exact ⟨middle, beyond, by rw [takeAll_cons hfirst, hbefore], hafter⟩

/-- A text that matches writes an hour wherever it is asked for one, and all fields of that hour are
in the result. -/
theorem time_of_takeAll_hour {before after : List Directive}
    (h : takeAll f text (before ++ numeric .hour :: after) = .ok (g, rest)) :
    ∃ middle left others n, takeAll f text before = .ok (middle, left) ∧
      Scan.fieldNumber .hour (Text.trimStart left) = .ok (n, others) ∧
      0 ≤ n ∧ g.time .half = some (n / 12) ∧ g.time .hourOfHalf = some (n % 12) := by
  obtain ⟨middle, left, hbefore, h⟩ := takeAll_append_eq_ok h
  obtain ⟨⟨given, others⟩, hhour, hafter⟩ := DateFields.bind_eq_ok h
  obtain ⟨n, hscan, hgive⟩ := giving_eq_ok hhour
  obtain ⟨hn, hhalf, hhourOfHalf⟩ := DateFields.time_of_giveHour hgive
  have hkeeps := (reads_takeAll after hafter).keeps
  exact ⟨middle, left, others, n, hbefore, hscan, hn, hkeeps _ _ hhalf, hkeeps _ _ hhourOfHalf⟩

theorem exists_writesHour (hhour : numeric .hour ∈ directives)
    (h : takeAll .empty text directives = .ok (g, rest)) : ∃ n, WritesHour directives text n := by
  obtain ⟨before, after, rfl⟩ := List.append_of_mem hhour
  obtain ⟨middle, left, others, n, hbefore, hscan, _⟩ := time_of_takeAll_hour h
  exact ⟨n, before, after, middle, left, others, rfl, hbefore, hscan⟩

/-- The fields of a written hour. -/
theorem WritesHour.time (hwrites : WritesHour directives text n)
    (h : takeAll .empty text directives = .ok (g, rest)) :
    0 ≤ n ∧ g.time .half = some (n / 12) ∧ g.time .hourOfHalf = some (n % 12) := by
  obtain ⟨before, after, fields, left, others, rfl, hbefore, hscan⟩ := hwrites
  obtain ⟨middle, left', others', n', hbefore', hscan', htime⟩ := time_of_takeAll_hour h
  obtain ⟨rfl, rfl⟩ := Prod.mk.inj (Except.ok.inj (hbefore.symm.trans hbefore'))
  obtain ⟨rfl, _⟩ := Prod.mk.inj (Except.ok.inj (hscan.symm.trans hscan'))
  exact htime

/-- A text writes one hour, however often it is asked for. -/
theorem WritesHour.unique {m : Int} (hn : WritesHour directives text n)
    (hm : WritesHour directives text m) (h : takeAll .empty text directives = .ok (g, rest)) :
    n = m := by
  obtain ⟨_, hhalf, hhour⟩ := hn.time h
  obtain ⟨_, hhalf', hhour'⟩ := hm.time h
  rw [hhalf] at hhalf'
  rw [hhour] at hhour'
  have hhalves := Option.some.inj hhalf'
  have hhours := Option.some.inj hhour'
  omega

/-! ## Complete times -/

/-- Whether directives complete an hour to a time of day: they ask for a minute, for a second if
there may be a fraction of it, and for no timestamp that could say something else. -/
def CompleteHours (directives : List Directive) : Prop :=
  .minute ∈ directives.flatMap timeFields ∧
    (.nano ∈ directives.flatMap timeFields → .second ∈ directives.flatMap timeFields) ∧
    .timestamp ∉ directives.flatMap timeFields

/-- Whether directives ask neither for a minute nor for a timestamp. -/
def LackMinutes (directives : List Directive) : Prop :=
  .minute ∉ directives.flatMap timeFields ∧ .timestamp ∉ directives.flatMap timeFields

instance (directives : List Directive) : Decidable (CompleteHours directives) :=
  inferInstanceAs (Decidable (_ ∧ (_ → _) ∧ _))

instance (directives : List Directive) : Decidable (LackMinutes directives) :=
  inferInstanceAs (Decidable (_ ∧ _))

theorem timestamp_eq_none (h : takeAll .empty text directives = .ok (g, rest))
    (htimestamp : .timestamp ∉ directives.flatMap timeFields) : g.timestamp = none :=
  (reads_takeAll directives h).others .timestamp htimestamp

/-- Fields of a complete time with an hour make a time. -/
theorem CompleteHours.exists_toTime (hcomplete : CompleteHours directives)
    (hwrites : WritesHour directives text n)
    (h : takeAll .empty text directives = .ok (g, rest)) : ∃ time, g.toTime = .ok time := by
  obtain ⟨hminute, hnano, _⟩ := hcomplete
  obtain ⟨_, hhalf, hhour⟩ := hwrites.time h
  have hreads := reads_takeAll directives h
  have hallows := hreads.allows fun field m hm => by cases field <;> cases hm
  have hfraction : g.nano = none ∨ g.second ≠ none := by
    by_cases hread : .nano ∈ directives.flatMap timeFields
    · obtain ⟨second, hsecond⟩ := hreads.gives .second (hnano hread) (by decide)
      exact .inr (Option.ne_none_iff_exists'.mpr ⟨second, hsecond⟩)
    · exact .inl (hreads.others .nano hread)
  exact DateFields.exists_toTime hallows ⟨_, hhalf⟩ ⟨_, hhour⟩
    (hreads.gives .minute hminute (by decide)) hfraction

theorem LackMinutes.toTime_ne_ok (hlack : LackMinutes directives)
    (h : takeAll .empty text directives = .ok (g, rest)) (time : TimeOfDay) :
    g.toTime ≠ .ok time := by
  intro htime
  obtain ⟨_, _, minute, _, _, hminute, _⟩ := DateFields.of_toTime htime
  have hnone : g.minute = none := (reads_takeAll directives h).others .minute hlack.1
  rw [hnone] at hminute
  cases hminute

end Directive

/-! ## Patterns -/

namespace DatePattern

open Directive (WritesHour CompleteHours LackMinutes)

variable {pattern : DatePattern} {directives : List Directive} {token : String} {moment : Moment}

/-- A token that is read gives fields, and the moment is theirs, or the midnight of their date. -/
theorem exists_fields (hdirectives : directives? pattern.specifiers.toList = some directives)
    (hread : pattern.read? token = some moment) :
    ∃ fields, Directive.takeAll .empty token.toList directives = .ok (fields, []) ∧
      (fields.toMoment = .ok moment ∨
        (∃ fault, fields.toMoment = .error fault) ∧ fields.toDate = .ok moment.date ∧
          moment = .ofDate moment.date) := by
  unfold read? at hread
  rw [hdirectives] at hread
  simp only [matchAll] at hread
  split at hread
  · cases hread
  · next fields hfields =>
      obtain ⟨⟨given, rest⟩, hall, hend⟩ := DateFields.bind_eq_ok hfields
      obtain ⟨rfl, hend⟩ := DateFields.of_ite_eq_ok hend
      cases hend
      refine ⟨fields, hall, ?_⟩
      split at hread
      · next hmoment =>
          cases hread
          exact .inl hmoment
      · next fault hmoment =>
          split at hread
          · next hdate =>
              cases hread
              exact .inr ⟨⟨fault, hmoment⟩, hdate, rfl⟩
          · cases hread

/-- Without a minute there is no time, and the date is taken alone. -/
theorem eq_ofDate_of_lackMinutes (hlack : LackMinutes directives)
    (hdirectives : directives? pattern.specifiers.toList = some directives)
    (hread : pattern.read? token = some moment) : moment = .ofDate moment.date := by
  obtain ⟨fields, hall, hmoment | ⟨_, _, hdate⟩⟩ := exists_fields hdirectives hread
  · rw [DateFields.toMoment_eq (Directive.timestamp_eq_none hall hlack.2)] at hmoment
    obtain ⟨date, _, hmoment⟩ := DateFields.bind_eq_ok hmoment
    obtain ⟨time, htime, _⟩ := DateFields.map_eq_ok hmoment
    exact absurd htime (hlack.toTime_ne_ok hall time)
  · exact hdate

/-- A complete time is taken with its date. -/
theorem toMoment_of_completeHours {fields : DateFields} {n : Int} {date : Date}
    (hcomplete : CompleteHours directives) (hwrites : WritesHour directives token.toList n)
    (hall : Directive.takeAll .empty token.toList directives = .ok (fields, []))
    (hdate : fields.toDate = .ok date) : ∃ m, fields.toMoment = .ok m := by
  obtain ⟨time, htime⟩ := hcomplete.exists_toTime hwrites hall
  rw [DateFields.toMoment_eq (Directive.timestamp_eq_none hall hcomplete.2.2), hdate, htime]
  exact ⟨⟨date, time⟩, rfl⟩

/-- **Hours of complete times are kept.**  A token that is read with a pattern for an hour writes
one hour.  It is that of the moment when the pattern completes it to a time of day.  In general the
moment has it, or is the midnight of its date, which is taken alone when there is no moment of date
and time.  Patterns that ask neither for a minute nor for a timestamp always give midnight. -/
theorem reads_hour (hdirectives : directives? pattern.specifiers.toList = some directives)
    (hread : pattern.read? token = some moment) :
    (LackMinutes directives → moment = .ofDate moment.date) ∧
    (.numeric .hour ∈ directives → ∃ hour : Int,
      (∀ n, WritesHour directives token.toList n ↔ n = hour) ∧
      (CompleteHours directives → moment.time.hour = hour) ∧
      (moment.time.hour = hour ∨
        moment = .ofDate moment.date ∧ ∃ fields fault,
          Directive.fieldsOf directives token.toList = .ok fields ∧
            fields.toMoment = .error fault)) := by
  refine ⟨fun hlack => eq_ofDate_of_lackMinutes hlack hdirectives hread, fun hhour => ?_⟩
  obtain ⟨fields, hall, hmoment⟩ := exists_fields hdirectives hread
  obtain ⟨hour, hwrites⟩ := Directive.exists_writesHour hhour hall
  obtain ⟨hpositive, hhalf, hhourOfHalf⟩ := hwrites.time hall
  have hkept : fields.toMoment = .ok moment → moment.time.hour = hour :=
    DateFields.hour_of_toMoment hpositive hhalf hhourOfHalf
  refine ⟨hour, fun n => ⟨fun hn => hn.unique hwrites hall, fun hn => hn ▸ hwrites⟩, ?_, ?_⟩
  · intro hcomplete
    rcases hmoment with hmoment | ⟨⟨fault, hfault⟩, hdate, _⟩
    · exact hkept hmoment
    · obtain ⟨m, hm⟩ := toMoment_of_completeHours hcomplete hwrites hall hdate
      rw [hfault] at hm
      cases hm
  · rcases hmoment with hmoment | ⟨⟨fault, hfault⟩, _, hmidnight⟩
    · exact .inl (hkept hmoment)
    · refine .inr ⟨hmidnight, fields, fault, ?_, hfault⟩
      rw [Directive.fieldsOf, hall]
      rfl

/-- Day, month, year, hour and minute. -/
def clockDirectives : List Directive :=
  dayMonthYearDirectives '.' ++ [.blanks, .numeric .hour, .literal [':'], .numeric .minute]

/-- Half past three in the afternoon of the fifth of March. -/
def halfPastThree : Moment where
  date := fifthOfMarch
  time := (TimeOfDay.ofParts? 15 30 0 0).get (by decide)

/-- With a minute the hour is kept. -/
theorem reads_hour_and_minute :
    directives? (DatePattern.mk "02.01.2006 15:04").specifiers.toList = some clockDirectives ∧
      (DatePattern.mk "02.01.2006 15:04").read? "05.03.2024 15:30" = some halfPastThree ∧
      .numeric .hour ∈ clockDirectives ∧ CompleteHours clockDirectives ∧
      WritesHour clockDirectives "05.03.2024 15:30".toList halfPastThree.time.hour := by
  have hdirectives : directives? (DatePattern.mk "02.01.2006 15:04").specifiers.toList =
      some clockDirectives := by decide +kernel
  have hread : (DatePattern.mk "02.01.2006 15:04").read? "05.03.2024 15:30" =
      some halfPastThree := by decide +kernel
  have hhour : .numeric .hour ∈ clockDirectives := by decide
  have hcomplete : CompleteHours clockDirectives := by decide
  obtain ⟨hour, hwrites, hkept, _⟩ := (reads_hour hdirectives hread).2 hhour
  exact ⟨hdirectives, hread, hhour, hcomplete, (hwrites _).mpr (hkept hcomplete)⟩

/-- Day, month, year and hour. -/
def hourDirectives : List Directive :=
  dayMonthYearDirectives '.' ++ [.blanks, .numeric .hour]

/-- With an hour alone it is not: the token writes 15, and midnight is read. -/
theorem drops_hour_alone :
    directives? (DatePattern.mk "%d.%m.%Y %H").specifiers.toList = some hourDirectives ∧
      .numeric .hour ∈ hourDirectives ∧
      WritesHour hourDirectives "05.03.2024 15".toList 15 ∧
      (DatePattern.mk "%d.%m.%Y %H").read? "05.03.2024 15" = some (.ofDate fifthOfMarch) ∧
      (Moment.ofDate fifthOfMarch).time.hour ≠ 15 := by
  have hscan : Directive.takeAll .empty "05.03.2024 15".toList
      (dayMonthYearDirectives '.' ++ [.blanks]) = .ok (.ofDate fifthOfMarch, "15".toList) := by
    decide +kernel
  exact ⟨by decide +kernel, by decide,
    ⟨dayMonthYearDirectives '.' ++ [.blanks], [], _, _, [], rfl, hscan, by decide +kernel⟩,
    by decide +kernel, by decide⟩

end DatePattern

end BankStatement
