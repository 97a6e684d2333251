import BankStatement.Calendar.Pattern
import BankStatement.Proofs.Decimal.Width
import BankStatement.Proofs.Text.Utf8

/-!
# Reading numbers and literals

What a directive reads off the front of a text when the text begins with what the directive asks
for, whatever comes after that.  A number of as many digits as its field may have ends by itself
(`Scan.number_of_hasWidth`), so that it need not be followed by a separator.
-/

namespace BankStatement

/-! ## Blanks -/

namespace Text

theorem isBlank_of_printable {c : Char} (hlow : 0x21 ≤ c.toNat) (hhigh : c.toNat ≤ 0x7e) :
    isBlank c = false := by
  unfold isBlank
  simp only [Bool.or_eq_false_iff, Bool.and_eq_false_iff, decide_eq_false_iff_not,
    beq_eq_false_iff_ne]
  omega

theorem isBlank_of_isDigit {c : Char} (h : Decimal.isDigit c = true) : isBlank c = false := by
  have hbounds := Decimal.isDigit_iff.mp h
  exact isBlank_of_printable (by omega) (by omega)

theorem trimStart_cons {c : Char} (h : isBlank c = false) (rest : List Char) :
    trimStart (c :: rest) = c :: rest :=
  List.dropWhile_cons_of_neg (Bool.eq_false_iff.mp h)

end Text

/-! ## Numbers -/

namespace Scan

variable {n width : Nat} {text : List Char}

/-- A number is read when its digits are those that may be taken. -/
theorem number_of_taken {most? : Option Nat} {run rest : List Char}
    (htaken : (match most? with
      | some most => ((run ++ rest).takeWhile Decimal.isDigit).take most
      | none => (run ++ rest).takeWhile Decimal.isDigit) = run)
    (hpos : 0 < run.length) (hn : Decimal.ofDigits run ≤ greatest) :
    number 1 most? (run ++ rest) = .ok (Decimal.ofDigits run, rest) := by
  have hsize : ¬ Utf8.size ((run ++ rest).take 1) < 1 := by
    obtain ⟨c, others, rfl⟩ := List.exists_cons_of_length_pos hpos
    exact Nat.not_lt.mpr (Utf8.size_cons_pos c _)
  have hread : ∀ digits : List Char, digits = run →
      (if Utf8.size ((run ++ rest).take 1) < 1 then .error .tooShort
      else if digits.length < 1 then .error .invalid
      else if greatest < Decimal.ofDigits digits then .error .outOfRange
      else .ok (Decimal.ofDigits digits, (run ++ rest).drop digits.length)) =
        (.ok (Decimal.ofDigits run, rest) : Scan Nat) := by
    rintro _ rfl
    rw [if_neg hsize, if_neg (Nat.not_lt.mpr hpos), if_neg (Nat.not_lt.mpr hn), List.drop_left]
  exact hread _ htaken

/-- A number of the greatest width is read whatever follows. -/
theorem number_of_hasWidth (h : Decimal.HasWidth width n text) (hwidth : 0 < width)
    (hn : n ≤ greatest) (rest : List Char) :
    number 1 (some width) (text ++ rest) = .ok (n, rest) := by
  obtain ⟨hlength, hdigits, hvalue⟩ := h
  obtain rfl : Decimal.ofDigits text = n := Int.ofNat_inj.mp hvalue
  refine number_of_taken ?_ (hlength ▸ hwidth) hn
  show ((text ++ rest).takeWhile Decimal.isDigit).take width = text
  rw [List.takeWhile_append_of_pos hdigits]
  exact List.take_left' hlength

/-- A number is read up to a character that is no digit, unless its digits are too many. -/
theorem number_of_endsDigits {most? : Option Nat} {run rest : List Char}
    (hrun : ∀ c ∈ run, Decimal.isDigit c = true) (hpos : 0 < run.length)
    (hrest : Decimal.EndsDigits rest) (hmost : ∀ most ∈ most?, run.length ≤ most)
    (hn : Decimal.ofDigits run ≤ greatest) :
    number 1 most? (run ++ rest) = .ok (Decimal.ofDigits run, rest) := by
  have hall := (Decimal.takeWhile_digits hrun hrest).1
  refine number_of_taken ?_ hpos hn
  rw [hall]
  cases most? with
  | none => rfl
  | some most => exact List.take_of_length_le (hmost most rfl)

/-- Where no digit stands, no number is read. -/
theorem number_of_not_isDigit {c : Char} (hc : Decimal.isDigit c = false) (most? : Option Nat)
    (rest : List Char) : number 1 most? (c :: rest) = .error .invalid := by
  have hrun : (c :: rest).takeWhile Decimal.isDigit = [] :=
    List.takeWhile_cons_of_neg (Bool.eq_false_iff.mp hc)
  have hsize : ¬ Utf8.size ((c :: rest).take 1) < 1 :=
    Nat.not_lt.mpr (Utf8.size_cons_pos c _)
  unfold number
  cases most? with
  | none =>
      simp only [hrun]
      rw [if_neg hsize]
      rfl
  | some most =>
      simp only [hrun, List.take_nil]
      rw [if_neg hsize]
      rfl

/-- A number in digits alone is read as one of its field, also when a sign could stand there. -/
theorem fieldNumber_of_hasWidth {field : NumericField} (hfield : field.width? = some width)
    (h : Decimal.HasWidth width n text) (hwidth : 0 < width) (hn : n ≤ greatest)
    (rest : List Char) : fieldNumber field (text ++ rest) = .ok ((n : Int), rest) := by
  have hnumber := number_of_hasWidth h hwidth hn rest
  obtain ⟨c, others, rfl, hc⟩ := h.head hwidth
  unfold fieldNumber
  rw [hfield]
  split
  · split
    · next heq =>
        obtain rfl := (List.cons.inj heq).1
        cases hc
    · next heq =>
        obtain rfl := (List.cons.inj heq).1
        cases hc
    · rw [hnumber]
      rfl
  · rw [hnumber]
    rfl

/-- A minus is part of the number of a field that may have a sign. -/
theorem fieldNumber_minus {field : NumericField} (hfield : field.mayBeSigned = true)
    {text rest : List Char} {n : Nat} (hnumber : number 1 none text = .ok (n, rest)) :
    fieldNumber field ('-' :: text) = .ok (-(n : Int), rest) := by
  unfold fieldNumber
  simp only [hfield, if_true, hnumber]
  rfl

/-- After a plus, which changes nothing, digits of any number are read. -/
theorem fieldNumber_plus {field : NumericField} (hfield : field.mayBeSigned = true)
    {text rest : List Char} {n : Nat} (hnumber : number 1 none text = .ok (n, rest)) :
    fieldNumber field ('+' :: text) = .ok ((n : Int), rest) := by
  unfold fieldNumber
  simp only [hfield, if_true, hnumber]
  rfl

/-- A field that may have no sign needs a digit. -/
theorem fieldNumber_of_not_isDigit {field : NumericField} (hfield : field.mayBeSigned = false)
    {c : Char} (hc : Decimal.isDigit c = false) (rest : List Char) :
    fieldNumber field (c :: rest) = .error .invalid := by
  unfold fieldNumber
  rw [hfield, number_of_not_isDigit hc]
  rfl

end Scan

/-! ## Giving a field for the first time -/

/-- A number within its bounds is given to a field that has none. -/
theorem DateFields.map_agreeWithin {least greatest new : Int} {old : Option Int}
    {set : Option Int → DateFields} (hnone : old = none) (h : least ≤ new ∧ new ≤ greatest) :
    (agreeWithin least greatest old new).map set = .ok (set (some new)) := by
  rw [hnone, agreeWithin, if_pos h]
  rfl

namespace NumericField

variable {fields : DateFields} {n : Int}

theorem give_day (hnone : fields.day = none) (h : 1 ≤ n ∧ n ≤ 31) :
    day.give fields n = .ok { fields with day := some n } :=
  DateFields.map_agreeWithin hnone h

theorem give_month (hnone : fields.month = none) (h : 1 ≤ n ∧ n ≤ 12) :
    month.give fields n = .ok { fields with month := some n } :=
  DateFields.map_agreeWithin hnone h

theorem give_year (hnone : fields.year = none)
    (h : DateFields.least32 ≤ n ∧ n ≤ DateFields.greatest32) :
    year.give fields n = .ok { fields with year := some n } :=
  DateFields.map_agreeWithin hnone h

theorem give_hour (hhalf : fields.half = none) (hhour : fields.hourOfHalf = none)
    (h : 0 ≤ n ∧ n ≤ 23) :
    hour.give fields n =
      .ok { fields with half := some (n / 12), hourOfHalf := some (n % 12) } := by
  show fields.giveHour n = _
  rw [DateFields.giveHour, if_pos h, hhalf, hhour]
  rfl

theorem give_minute (hnone : fields.minute = none) (h : 0 ≤ n ∧ n ≤ 59) :
    minute.give fields n = .ok { fields with minute := some n } :=
  DateFields.map_agreeWithin hnone h

theorem give_second (hnone : fields.second = none) (h : 0 ≤ n ∧ n ≤ 60) :
    second.give fields n = .ok { fields with second := some n } :=
  DateFields.map_agreeWithin hnone h

theorem give_nano (hnone : fields.nano = none) (h : 0 ≤ n ∧ n ≤ 999999999) :
    nano.give fields n = .ok { fields with nano := some n } :=
  DateFields.map_agreeWithin hnone h

end NumericField

/-! ## Directives -/

namespace Directive

variable {n width : Nat} {text : List Char} {fields : DateFields}

/-- A number without blanks before it gives its field. -/
theorem take_numeric_of_scan {field : NumericField} {rest : List Char} {n : Int}
    (htrim : Text.trimStart text = text) (hscan : Scan.fieldNumber field text = .ok (n, rest))
    {given : DateFields} (hgive : field.give fields n = .ok given) :
    (numeric field).take fields text = .ok (given, rest) := by
  show giving (Scan.fieldNumber field (Text.trimStart text)) (field.give fields) = .ok (given, rest)
  rw [htrim, hscan]
  show (field.give fields n).bind (fun fields => .ok (fields, rest)) = .ok (given, rest)
  rw [hgive]
  rfl

/-- A number of the greatest width gives its field. -/
theorem take_numeric {field : NumericField} (hfield : field.width? = some width)
    (h : Decimal.HasWidth width n text) (hwidth : 0 < width) (hn : n ≤ Scan.greatest)
    {given : DateFields} (hgive : field.give fields n = .ok given) (rest : List Char) :
    (numeric field).take fields (text ++ rest) = .ok (given, rest) := by
  have hscan := Scan.fieldNumber_of_hasWidth hfield h hwidth hn rest
  obtain ⟨c, others, rfl, hc⟩ := h.head hwidth
  exact take_numeric_of_scan (Text.trimStart_cons (Text.isBlank_of_isDigit hc) _) hscan hgive

theorem take_literal (expected rest : List Char) (fields : DateFields) :
    (literal expected).take fields (expected ++ rest) = .ok (fields, rest) := by
  have hprefix : expected.isPrefixOf (expected ++ rest) = true :=
    List.isPrefixOf_iff_prefix.mpr (List.prefix_append _ _)
  show (takeLiteral expected (expected ++ rest)).map (fun rest => (fields, rest)) = _
  rw [takeLiteral, if_pos hprefix, List.drop_left]
  rfl

theorem take_char (c : Char) (rest : List Char) (fields : DateFields) :
    (literal [c]).take fields (c :: rest) = .ok (fields, rest) :=
  take_literal [c] rest fields

theorem takeAll_cons {directive : Directive} {given : DateFields} {rest : List Char}
    (h : directive.take fields text = .ok (given, rest)) (directives : List Directive) :
    takeAll fields text (directive :: directives) = takeAll given rest directives := by
  rw [takeAll, h]
  rfl

theorem takeAll_of_error {directive : Directive} {fault : DateFault}
    (h : directive.take fields text = .error fault) (directives : List Directive) :
    takeAll fields text (directive :: directives) = .error fault := by
  rw [takeAll, h]
  rfl

end Directive

/-! ## The directives of a text -/

theorem directives?_nil : directives? [] = some [] := by
  rw [directives?.eq_def]

/-- A percent sign with a specifier. -/
theorem directives?_specifier {text : List Char} {directives : List Directive} {count : Nat}
    (h : specifier? text = some (directives, count)) :
    directives? ('%' :: text) = (directives? (text.drop count)).map (directives ++ ·) := by
  rw [directives?.eq_def]
  simp only [h]

theorem directives?_letter {letter : Char} {directives : List Directive} {rest : List Char}
    (h : specifier? (letter :: rest) = some (directives, 1)) :
    directives? ('%' :: letter :: rest) = (directives? rest).map (directives ++ ·) :=
  directives?_specifier h

/-- A character that stands for itself before a percent sign. -/
theorem directives?_literal {c : Char} (hpercent : c ≠ '%') (hblank : Text.isBlank c = false)
    (text : List Char) :
    directives? (c :: '%' :: text) = (directives? ('%' :: text)).map (.literal [c] :: ·) := by
  have hend : ¬ isLiteral '%' = true := by decide
  rw [directives?.eq_def]
  split
  · next heq => cases heq
  · next heq => exact absurd (List.cons.inj heq).1 hpercent
  · next heq =>
      obtain ⟨rfl, rfl⟩ := List.cons.inj heq
      rw [if_neg (Bool.eq_false_iff.mp hblank), List.takeWhile_cons_of_neg hend,
        List.dropWhile_cons_of_neg hend]

end BankStatement
