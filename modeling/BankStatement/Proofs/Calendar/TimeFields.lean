import BankStatement.Calendar.Pattern

/-!
# Fields of the time

What the directives of a pattern give of the time.  Each of them may give some fields
(`Directive.timeFields`).  Whatever it reads, the fields that were given stay as they are, no others
are given, its own all are, except for the fraction of a second, and each is in its range
(`DateFields.Reads`).  This composes along a list of directives (`Directive.reads_takeAll`), so that
the list alone decides which fields of the time a text gives in the end.

And which time the fields give: there is one just when there are an hour and a minute, and a second
if there is a fraction of it (`DateFields.of_toTime`, `DateFields.toTime_of_shown`,
`DateFields.exists_toTime`).  Without a timestamp the moment is this time with the date
(`DateFields.toMoment_eq`).
-/

namespace BankStatement

/-! ## Fields of the time -/

/-- What a text may say of the time: fields of the time of day, or a timestamp. -/
inductive TimeField where
  | half
  | hourOfHalf
  | minute
  | second
  | nano
  | timestamp
deriving DecidableEq

/-- Whether a number is in the range of a field. -/
def TimeField.Allows : TimeField → Int → Prop
  | half, n => 0 ≤ n ∧ n ≤ 1
  | hourOfHalf, n => 0 ≤ n ∧ n ≤ 11
  | minute, n => 0 ≤ n ∧ n ≤ 59
  | second, n => 0 ≤ n ∧ n ≤ 60
  | nano, n => 0 ≤ n ∧ n ≤ 999999999
  | timestamp, _ => True

/-- The fields of the time that a numeric field gives. -/
def NumericField.timeFields : NumericField → List TimeField
  | hour => [.half, .hourOfHalf]
  | hourOfHalf => [.hourOfHalf]
  | minute => [.minute]
  | second => [.second]
  | nano => [.nano]
  | timestamp => [.timestamp]
  | _ => []

/-- The fields of the time that a directive gives.  Points with a fraction after them may be
missing. -/
def Directive.timeFields : Directive → List TimeField
  | numeric field => field.timeFields
  | half => [.half]
  | fraction | pointedDigits _ | fractionDigits _ => [.nano]
  | zonedMoment => [.half, .hourOfHalf, .minute, .second, .nano]
  | _ => []

namespace DateFields

/-- What is given for a field of the time. -/
def time (f : DateFields) : TimeField → Option Int
  | .half => f.half
  | .hourOfHalf => f.hourOfHalf
  | .minute => f.minute
  | .second => f.second
  | .nano => f.nano
  | .timestamp => f.timestamp

/-- The fields with one of the time replaced. -/
def setTime (f : DateFields) : TimeField → Option Int → DateFields
  | .half, value => { f with half := value }
  | .hourOfHalf, value => { f with hourOfHalf := value }
  | .minute, value => { f with minute := value }
  | .second, value => { f with second := value }
  | .nano, value => { f with nano := value }
  | .timestamp, value => { f with timestamp := value }

theorem time_setTime (f : DateFields) (field other : TimeField) (value : Option Int) :
    (f.setTime field value).time other = if other = field then value else f.time other := by
  cases field <;> cases other <;> rfl

/-- How fields change when some fields of the time are read, among them possibly the fraction of a
second. -/
structure Reads (read : List TimeField) (f g : DateFields) : Prop where
  keeps : ∀ field n, f.time field = some n → g.time field = some n
  others : ∀ field, field ∉ read → g.time field = f.time field
  gives : ∀ field ∈ read, field ≠ .nano → ∃ n, g.time field = some n
  allows : (∀ field n, f.time field = some n → field.Allows n) →
    ∀ field n, g.time field = some n → field.Allows n

namespace Reads

variable {read more : List TimeField} {f g h : DateFields}

theorem of_time_eq (hsame : ∀ field, g.time field = f.time field) : Reads [] f g where
  keeps field _ hn := (hsame field).trans hn
  others field _ := hsame field
  gives _ hmem _ := absurd hmem List.not_mem_nil
  allows hallows field n hn := hallows field n ((hsame field).symm.trans hn)

theorem refl (f : DateFields) : Reads [] f f :=
  of_time_eq fun _ => rfl

theorem trans (first : Reads read f g) (second : Reads more g h) : Reads (read ++ more) f h where
  keeps field n hn := second.keeps field n (first.keeps field n hn)
  others field hmem := by
    rw [List.mem_append, not_or] at hmem
    rw [second.others field hmem.2, first.others field hmem.1]
  gives field hmem hnano := by
    rcases List.mem_append.mp hmem with hread | hmore
    · obtain ⟨n, hn⟩ := first.gives field hread hnano
      exact ⟨n, second.keeps field n hn⟩
    · exact second.gives field hmore hnano
  allows hallows := second.allows (first.allows hallows)

/-- The fraction of a second may be missing. -/
theorem nano_of_nil (hreads : Reads [] f g) : Reads [.nano] f g where
  keeps := hreads.keeps
  others field _ := hreads.others field List.not_mem_nil
  gives _ hmem hnano := absurd (List.mem_singleton.mp hmem) hnano
  allows := hreads.allows

end Reads

/-! ## Giving fields -/

variable {f g : DateFields} {n : Int}

theorem agree_eq_ok {α : Type} [DecidableEq α] {old result : Option α} {new : α}
    (h : agree old new = .ok result) :
    result = some new ∧ ∀ value, old = some value → value = new := by
  unfold agree at h
  split at h
  · cases h
    exact ⟨rfl, fun _ hvalue => by cases hvalue⟩
  · split at h
    · next heq =>
        cases h
        exact ⟨congrArg some heq, fun _ hvalue => Option.some.inj hvalue ▸ heq⟩
    · cases h

theorem bind_eq_ok {α β : Type} {result : Except DateFault α} {next : α → Except DateFault β}
    {final : β} (h : result.bind next = .ok final) :
    ∃ value, result = .ok value ∧ next value = .ok final := by
  cases result with
  | error e => cases h
  | ok value => exact ⟨value, rfl, h⟩

theorem map_eq_ok {α β : Type} {result : Except DateFault α} {build : α → β} {final : β}
    (h : result.map build = .ok final) : ∃ value, result = .ok value ∧ build value = final := by
  cases result with
  | error e => cases h
  | ok value => exact ⟨value, rfl, Except.ok.inj h⟩

theorem of_ite_eq_ok {α : Type} {p : Prop} [Decidable p] {fault : DateFault}
    {result : Except DateFault α} {value : α}
    (h : (if p then result else .error fault) = .ok value) : p ∧ result = .ok value := by
  split at h
  · next hp => exact ⟨hp, h⟩
  · cases h

/-- Fields that are not of the time leave those of the time. -/
theorem Reads.of_map {α : Type} {result : Except DateFault α} {build : α → DateFields}
    (h : result.map build = .ok g)
    (hsame : ∀ value field, (build value).time field = f.time field) :
    Reads [] f g := by
  obtain ⟨value, _, rfl⟩ := map_eq_ok h
  exact of_time_eq (hsame value)

/-- A field of the time that is given in its range. -/
theorem Reads.of_agree (field : TimeField)
    (h : (agree (f.time field) n).map (f.setTime field) = .ok g) (hallows : field.Allows n) :
    Reads [field] f g := by
  obtain ⟨value, hagree, rfl⟩ := map_eq_ok h
  obtain ⟨rfl, hsame⟩ := agree_eq_ok hagree
  constructor
  case keeps =>
    intro other m hm
    rw [time_setTime]
    split
    · next heq => rw [hsame m (heq ▸ hm)]
    · exact hm
  case others =>
    intro other hmem
    rw [time_setTime, if_neg fun heq => hmem (List.mem_singleton.mpr heq)]
  case gives =>
    intro other hmem _
    exact ⟨n, by rw [time_setTime, if_pos (List.mem_singleton.mp hmem)]⟩
  case allows =>
    intro hbefore other m hm
    rw [time_setTime] at hm
    split at hm
    · next heq =>
        obtain rfl := Option.some.inj hm
        exact heq ▸ hallows
    · exact hbefore other m hm

/-- A field of the time whose range the text is checked against. -/
theorem Reads.of_agreeWithin (field : TimeField) {least greatest : Int}
    (h : (agreeWithin least greatest (f.time field) n).map (f.setTime field) = .ok g)
    (hallows : least ≤ n ∧ n ≤ greatest → field.Allows n) : Reads [field] f g := by
  unfold agreeWithin at h
  split at h
  · next hrange => exact of_agree field h (hallows hrange)
  · cases h

theorem time_of_agree {field : TimeField}
    (h : (agree (f.time field) n).map (f.setTime field) = .ok g) : g.time field = some n := by
  obtain ⟨value, hagree, rfl⟩ := map_eq_ok h
  rw [time_setTime, if_pos rfl, (agree_eq_ok hagree).1]

/-- An hour gives its two fields, one after the other. -/
theorem giveHour_eq_ok (h : f.giveHour n = .ok g) :
    (0 ≤ n ∧ n ≤ 23) ∧ ∃ middle,
      (agree (f.time .half) (n / 12)).map (f.setTime .half) = .ok middle ∧
      (agree (middle.time .hourOfHalf) (n % 12)).map (middle.setTime .hourOfHalf) = .ok g := by
  obtain ⟨hrange, h⟩ := of_ite_eq_ok h
  obtain ⟨half, hhalf, h⟩ := bind_eq_ok h
  obtain ⟨hourOfHalf, hhour, h⟩ := bind_eq_ok h
  obtain rfl := Except.ok.inj h
  refine ⟨hrange, { f with half }, ?_, ?_⟩
  · exact congrArg (Except.map (f.setTime .half)) hhalf
  · exact congrArg (Except.map (setTime { f with half } .hourOfHalf)) hhour

theorem reads_giveHour (h : f.giveHour n = .ok g) : Reads [.half, .hourOfHalf] f g := by
  obtain ⟨hrange, middle, hhalf, hhour⟩ := giveHour_eq_ok h
  have hhalfRange : TimeField.half.Allows (n / 12) := by
    show 0 ≤ n / 12 ∧ n / 12 ≤ 1
    omega
  have hhourRange : TimeField.hourOfHalf.Allows (n % 12) := by
    show 0 ≤ n % 12 ∧ n % 12 ≤ 11
    omega
  exact (Reads.of_agree .half hhalf hhalfRange).trans (Reads.of_agree .hourOfHalf hhour hhourRange)

/-- Both fields of an hour are given, and the hour can be had from them. -/
theorem time_of_giveHour (h : f.giveHour n = .ok g) :
    0 ≤ n ∧ g.time .half = some (n / 12) ∧ g.time .hourOfHalf = some (n % 12) := by
  obtain ⟨hrange, middle, hhalf, hhour⟩ := giveHour_eq_ok h
  have hkeeps : ∀ m, middle.time .half = some m → g.time .half = some m := by
    obtain ⟨value, _, rfl⟩ := map_eq_ok hhour
    exact fun m hm => hm
  exact ⟨hrange.1, hkeeps _ (time_of_agree hhalf), time_of_agree hhour⟩

end DateFields

/-- What a numeric field gives of the time. -/
theorem NumericField.reads_give (field : NumericField) {f g : DateFields} {n : Int}
    (h : field.give f n = .ok g) : DateFields.Reads field.timeFields f g := by
  have hday : ∀ {index : Nat}, f.giveWeekday (.ofIndex index) = .ok g → DateFields.Reads [] f g :=
    fun h => .of_map h fun _ field => by cases field <;> rfl
  cases field with
  | dayFromSunday => exact hday (DateFields.of_ite_eq_ok h).2
  | dayFromMonday => exact hday (DateFields.of_ite_eq_ok h).2
  | hour => exact DateFields.reads_giveHour h
  | hourOfHalf =>
      obtain ⟨hrange, h⟩ := DateFields.of_ite_eq_ok h
      refine .of_agree .hourOfHalf h ?_
      show 0 ≤ n % 12 ∧ n % 12 ≤ 11
      omega
  | minute => exact .of_agreeWithin .minute h id
  | second => exact .of_agreeWithin .second h id
  | nano => exact .of_agreeWithin .nano h id
  | timestamp => exact .of_agree .timestamp h trivial
  | _ => exact .of_map h fun _ field => by cases field <;> rfl

namespace Directive

open DateFields (Reads)

variable {f g : DateFields} {text rest : List Char}

theorem giving_eq_ok {α : Type} {scan : Scan α} {give : α → Except DateFault DateFields}
    (h : giving scan give = .ok (g, rest)) :
    ∃ value, scan = .ok (value, rest) ∧ give value = .ok g := by
  obtain ⟨⟨value, left⟩, hscan, h⟩ := DateFields.bind_eq_ok h
  obtain ⟨given, hgive, h⟩ := DateFields.bind_eq_ok h
  cases h
  exact ⟨value, hscan, hgive⟩

/-- A directive gives its own fields of the time and keeps the others. -/
theorem reads_takeSimple (directive : Directive) (h : directive.takeSimple f text = .ok (g, rest)) :
    Reads directive.timeFields f g := by
  have hnano : ∀ {scan : Scan Nat}, giving scan (fun n => f.giveNano n) = .ok (g, rest) →
      Reads [.nano] f g := by
    intro scan h
    obtain ⟨n, _, hgive⟩ := giving_eq_ok h
    exact .of_agreeWithin .nano hgive id
  cases directive with
  | literal expected =>
      obtain ⟨_, _, h⟩ := DateFields.map_eq_ok h
      cases h
      exact .refl f
  | blanks =>
      cases h
      exact .refl f
  | numeric field =>
      obtain ⟨n, _, hgive⟩ := giving_eq_ok h
      exact field.reads_give hgive
  | half =>
      simp only [takeSimple] at h
      obtain ⟨n, _, hgive⟩ := giving_eq_ok h
      exact .of_agreeWithin .half hgive id
  | fraction =>
      simp only [takeSimple] at h
      split at h
      · exact hnano h
      · cases h
        exact (Reads.refl f).nano_of_nil
  | pointedDigits count =>
      simp only [takeSimple] at h
      split at h
      · exact hnano h
      · cases h
        exact (Reads.refl f).nano_of_nil
  | fractionDigits count => exact hnano h
  | zoneName =>
      cases h
      exact .refl f
  | zonedMoment => cases h
  | _ =>
      -- months, weekdays and zones
      simp only [takeSimple] at h
      obtain ⟨_, _, hgive⟩ := giving_eq_ok h
      exact .of_map hgive fun _ field => by cases field <;> rfl

theorem reads_takeAllSimple (directives : List Directive)
    (h : takeAllSimple f text directives = .ok (g, rest)) :
    Reads (directives.flatMap timeFields) f g := by
  induction directives generalizing f text with
  | nil =>
      cases h
      exact .refl _
  | cons directive more ih =>
      obtain ⟨⟨middle, left⟩, hfirst, h⟩ := DateFields.bind_eq_ok h
      exact (directive.reads_takeSimple hfirst).trans (ih h)

theorem reads_takeMomentZone (h : takeMomentZone f text = .ok (g, rest)) : Reads [] f g := by
  have hoffset : ∀ {scan : Scan Int}, giving scan f.giveOffset = .ok (g, rest) → Reads [] f g := by
    intro scan h
    obtain ⟨_, _, hgive⟩ := giving_eq_ok h
    exact .of_map hgive fun _ field => by cases field <;> rfl
  unfold takeMomentZone at h
  split at h <;> exact hoffset h

theorem reads_take (directive : Directive) (h : directive.take f text = .ok (g, rest)) :
    Reads directive.timeFields f g := by
  unfold take at h
  split at h
  · obtain ⟨⟨date, afterDate⟩, hdate, h⟩ := DateFields.bind_eq_ok h
    dsimp only at h
    split at h
    · cases h
    · obtain ⟨_, h⟩ := DateFields.of_ite_eq_ok h
      obtain ⟨afterMark, _, h⟩ := DateFields.bind_eq_ok h
      obtain ⟨⟨time, afterTime⟩, htime, h⟩ := DateFields.bind_eq_ok h
      exact (reads_takeAllSimple looseDate hdate).trans
        ((reads_takeAllSimple looseTime htime).trans (reads_takeMomentZone h))
  · exact directive.reads_takeSimple h

/-- What a list of directives gives of the time. -/
theorem reads_takeAll (directives : List Directive)
    (h : takeAll f text directives = .ok (g, rest)) :
    Reads (directives.flatMap timeFields) f g := by
  induction directives generalizing f text with
  | nil =>
      cases h
      exact .refl _
  | cons directive more ih =>
      obtain ⟨⟨middle, left⟩, hfirst, h⟩ := DateFields.bind_eq_ok h
      exact (directive.reads_take hfirst).trans (ih h)

end Directive

/-! ## The time of the fields -/

namespace TimeOfDay

theorem hour_of_ofParts? {hour minute second nano : Nat} {time : TimeOfDay}
    (h : ofParts? hour minute second nano = some time) : time.hour = hour := by
  unfold ofParts? at h
  split at h
  · cases h
    rfl
  · cases h

theorem exists_ofParts? {hour minute second nano : Nat} (hhour : hour < 24) (hminute : minute < 60)
    (hsecond : second < 60) (hnano : nano < 1000000000 ∨ second = 59 ∧ nano < 2000000000) :
    ∃ time, ofParts? hour minute second nano = some time :=
  ⟨_, dif_pos ⟨hhour, hminute, hsecond, hnano⟩⟩

/-- The time that a clock shows, with second 60 in a leap second. -/
def ofShown? (hour minute second nano : Int) : Option TimeOfDay :=
  if second = 60 then ofParts? hour.toNat minute.toNat 59 (1000000000 + nano).toNat
  else ofParts? hour.toNat minute.toNat second.toNat nano.toNat

theorem exists_ofShown? {hour minute second nano : Int} (hhour : 0 ≤ hour ∧ hour ≤ 23)
    (hminute : 0 ≤ minute ∧ minute ≤ 59) (hsecond : 0 ≤ second ∧ second ≤ 60)
    (hnano : 0 ≤ nano ∧ nano ≤ 999999999) :
    ∃ time, ofShown? hour minute second nano = some time := by
  unfold ofShown?
  split
  · exact exists_ofParts? (by omega) (by omega) (by decide) (by omega)
  · exact exists_ofParts? (by omega) (by omega) (by omega) (by omega)

end TimeOfDay

namespace DateFields

variable {f : DateFields}

/-- A time has the hour that the fields give, and they give a minute, and a second if there is a
fraction of it. -/
theorem of_toTime {time : TimeOfDay} (h : f.toTime = .ok time) :
    ∃ half hour minute, f.half = some half ∧ f.hourOfHalf = some hour ∧ f.minute = some minute ∧
      (f.nano = none ∨ f.second ≠ none) ∧ time.hour = (half * 12 + hour).toNat := by
  unfold toTime at h
  split at h
  · next half hour minute hhalf hhour hminute =>
      dsimp only at h
      split at h
      · cases h
      · next hfraction =>
          have hnano : f.nano = none ∨ f.second ≠ none := by
            cases hnano : f.nano with
            | none => exact .inl rfl
            | some nano => exact .inr fun hsecond => hfraction nano hnano hsecond
          split at h
          · next hparts =>
              cases h
              exact ⟨half, hour, minute, hhalf, hhour, hminute, hnano,
                TimeOfDay.hour_of_ofParts? hparts⟩
          · cases h
  · cases h

/-- Fields that are enough for a time give the one that a clock shows like them. -/
theorem toTime_of_shown {half hour minute : Int} {time : TimeOfDay} (hhalf : f.half = some half)
    (hhour : f.hourOfHalf = some hour) (hminute : f.minute = some minute)
    (hnano : f.nano = none ∨ f.second ≠ none)
    (hshown : TimeOfDay.ofShown? (half * 12 + hour) minute (f.second.getD 0) (f.nano.getD 0) =
      some time) : f.toTime = .ok time := by
  have hgiven : ∀ nano, f.nano = some nano → ∃ second, f.second = some second := by
    intro nano hsome
    refine Option.ne_none_iff_exists'.mp (hnano.resolve_left ?_)
    rw [hsome]
    exact Option.some_ne_none nano
  unfold TimeOfDay.ofShown? at hshown
  unfold toTime
  rw [hhalf, hhour, hminute]
  by_cases hleap : f.second.getD 0 = 60
  · simp only [if_pos hleap] at hshown ⊢
    cases hfraction : f.nano with
    | none =>
        rw [hfraction] at hshown
        simp only [Int.reduceToNat, hshown]
    | some nano =>
        obtain ⟨second, hsecond⟩ := hgiven nano hfraction
        rw [hfraction] at hshown
        simp only [hsecond, Int.reduceToNat, hshown]
  · simp only [if_neg hleap] at hshown ⊢
    cases hfraction : f.nano with
    | none =>
        rw [hfraction] at hshown
        simp only [Int.zero_add, hshown]
    | some nano =>
        obtain ⟨second, hsecond⟩ := hgiven nano hfraction
        rw [hfraction] at hshown
        rw [hsecond] at hshown ⊢
        simp only [Int.zero_add, hshown]

/-- Fields of a time in their ranges make a time, if there is a minute, and a second when there is a
fraction of it. -/
theorem exists_toTime (hallows : ∀ field n, f.time field = some n → field.Allows n)
    (hhalf : ∃ n, f.time .half = some n) (hhour : ∃ n, f.time .hourOfHalf = some n)
    (hminute : ∃ n, f.time .minute = some n)
    (hnano : f.nano = none ∨ f.second ≠ none) : ∃ time, f.toTime = .ok time := by
  obtain ⟨half, hhalf⟩ := hhalf
  obtain ⟨hour, hhour⟩ := hhour
  obtain ⟨minute, hminute⟩ := hminute
  obtain ⟨hhalfLow, hhalfHigh⟩ := hallows .half half hhalf
  obtain ⟨hhourLow, hhourHigh⟩ := hallows .hourOfHalf hour hhour
  obtain ⟨hminuteLow, hminuteHigh⟩ := hallows .minute minute hminute
  have hsecond : 0 ≤ f.second.getD 0 ∧ f.second.getD 0 ≤ 60 := by
    cases hsecond : f.second with
    | none => decide
    | some second => exact hallows .second second hsecond
  have hfraction : 0 ≤ f.nano.getD 0 ∧ f.nano.getD 0 ≤ 999999999 := by
    cases hnano : f.nano with
    | none => decide
    | some nano => exact hallows .nano nano hnano
  have hhourOfDay : 0 ≤ half * 12 + hour ∧ half * 12 + hour ≤ 23 := by omega
  obtain ⟨time, hshown⟩ :=
    TimeOfDay.exists_ofShown? hhourOfDay ⟨hminuteLow, hminuteHigh⟩ hsecond hfraction
  exact ⟨time, toTime_of_shown hhalf hhour hminute hnano hshown⟩

/-- Without a timestamp the moment is the date and the time. -/
theorem toMoment_eq (htimestamp : f.timestamp = none) :
    f.toMoment = f.toDate.bind fun date => f.toTime.map fun time => ⟨date, time⟩ := by
  unfold toMoment
  cases f.toDate with
  | error e =>
      dsimp only
      rw [htimestamp]
      rfl
  | ok date =>
      cases f.toTime with
      | error e =>
          dsimp only
          rw [htimestamp]
          rfl
      | ok time =>
          have hallows : f.allowsTimestamp ⟨date, time⟩ = true := by
            rw [allowsTimestamp, htimestamp]
            rfl
          exact if_pos hallows

end DateFields

end BankStatement
