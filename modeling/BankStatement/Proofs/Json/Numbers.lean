import BankStatement.Json.Printer
import BankStatement.Json.NumberLiteral
import BankStatement.Proofs.Decimal.Shortest

/-!
# Numbers read back

The numbers that a document can hold are integers of 64 bits, with or without a sign, and finite
binary64 values (`Number.Fits`).  Scanning gives no others (`fits_of_scanNumber`), and those are
printed so that scanning gives them back, whatever follows that is no part of a number
(`scanNumber_print`).

## Strategy

A printed number is whole digits without a leading zero, and then nothing, a fraction, or an
exponent, perhaps after a fraction.  There is one lemma for each of these parts.  The three layouts
of a shortest numeral are then instances, and each scans as a numeral of the same value as the
shortest one.
-/

namespace BankStatement.Json

open Decimal (digits ofDigits isDigit EndsDigits takeWhile_digits)

/-- The numbers that documents can hold. -/
def Number.Fits : Number → Prop
  | .integer n => -(2 ^ 63) ≤ n ∧ n < 2 ^ 64
  | .real x => x.isFinite = true

/-- What may follow a number. -/
def EndsNumber (rest : List Char) : Prop :=
  ∀ c ∈ rest.head?, isDigit c = false ∧ c ≠ '.' ∧ c ≠ 'e' ∧ c ≠ 'E'

theorem EndsNumber.endsDigits {rest : List Char} (h : EndsNumber rest) : EndsDigits rest :=
  fun c hc => (h c hc).1

/-! ## What scanning gives -/

theorem fits_of_realNumber {minus : Bool} {d : Decimal} {reach : List Char} {n : Number}
    (h : realNumber minus d reach = .ok n) : n.Fits := by
  simp only [realNumber] at h
  split at h
  · rename_i hfinite
    cases h
    exact hfinite
  · cases h

theorem fits_of_wholeNumber {minus : Bool} {whole : Nat} {reach : List Char} {n : Number}
    (h : wholeNumber minus whole reach = .ok n) : n.Fits := by
  unfold wholeNumber at h
  simp only [Nat.pow_eq] at h
  split at h
  · split at h
    · exact fits_of_realNumber h
    · cases h
      constructor <;> omega
  · split at h
    · cases h
      constructor <;> omega
    · exact fits_of_realNumber h

theorem digitsMissing_ne (text : List Char) {value : Except Fault Number} {rest : List Char} :
    digitsMissing text ≠ .number value rest := by
  unfold digitsMissing
  split <;> exact NumberScan.noConfusion

theorem fits_of_scanExponent {minus : Bool} {d : Decimal} {text rest : List Char} {n : Number}
    (h : scanExponent minus d text = .number (.ok n) rest) : n.Fits := by
  simp only [scanExponent] at h
  -- whatever the sign of the exponent
  split at h
  all_goals
    split at h
    · exact absurd h (digitsMissing_ne _)
    · injection h with hvalue
      exact fits_of_realNumber hvalue

theorem fits_of_scanFraction {minus : Bool} {whole text rest : List Char} {n : Number}
    (h : scanFraction minus whole text = .number (.ok n) rest) : n.Fits := by
  unfold scanFraction at h
  split at h
  · dsimp only at h
    split at h
    · exact absurd h (digitsMissing_ne _)
    · split at h
      · exact fits_of_scanExponent h
      · exact fits_of_scanExponent h
      · injection h with hvalue
        exact fits_of_realNumber hvalue
  · exact fits_of_scanExponent h
  · exact fits_of_scanExponent h
  · injection h with hvalue
    exact fits_of_wholeNumber hvalue

theorem fits_of_scanUnsigned {minus : Bool} {text rest : List Char} {n : Number}
    (h : scanUnsigned minus text = .number (.ok n) rest) : n.Fits := by
  unfold scanUnsigned at h
  split at h
  · split at h
    · cases h
    · exact fits_of_scanFraction h
  · dsimp only at h
    split at h
    · exact absurd h (digitsMissing_ne _)
    · exact fits_of_scanFraction h

/-- Scanning gives no other numbers than those that documents can hold. -/
theorem fits_of_scanNumber {text rest : List Char} {n : Number}
    (h : scanNumber text = .number (.ok n) rest) : n.Fits := by
  unfold scanNumber at h
  split at h
  · exact fits_of_scanUnsigned h
  · exact fits_of_scanUnsigned h

/-! ## The parts of a number -/

/-- Whole digits: without a leading zero, unless it is the only digit. -/
structure Whole (text : List Char) : Prop where
  ne_nil : text ≠ []
  isDigit : ∀ c ∈ text, isDigit c = true
  zero : text.head? = some '0' → text = ['0']

theorem isDigit_zero : ∀ c ∈ ['0'], isDigit c = true := by
  intro c hc
  rw [List.mem_singleton.mp hc]
  decide

theorem whole_zero : Whole ['0'] :=
  ⟨by decide, isDigit_zero, fun _ => rfl⟩

/-- Digits that do not begin with a zero. -/
theorem whole_of_head? {text : List Char} (hne : text ≠ []) (hdigits : ∀ c ∈ text, isDigit c = true)
    (hhead : text.head? ≠ some '0') : Whole text :=
  ⟨hne, hdigits, fun hzero => absurd hzero hhead⟩

theorem whole_digits (n : Nat) : Whole (digits n) := by
  rcases Nat.eq_zero_or_pos n with rfl | hpos
  · rw [Decimal.digits_of_lt (by decide)]
    exact whole_zero
  · exact whole_of_head? (Decimal.digits_ne_nil n) Decimal.isDigit_of_mem_digits
      (Decimal.head?_digits hpos)

/-- The first digits of a number that is not zero. -/
theorem whole_take_digits {n count : Nat} (hpos : 0 < n) (hcount : 0 < count) :
    Whole ((digits n).take count) := by
  have hhead := Decimal.head?_digits hpos
  have hdigits : ∀ c ∈ (digits n).take count, isDigit c = true :=
    fun c hc => Decimal.isDigit_of_mem_digits c (List.mem_of_mem_take hc)
  obtain ⟨count, rfl⟩ : ∃ before, count = before + 1 := ⟨count - 1, by omega⟩
  cases htext : digits n with
  | nil => exact absurd htext (Decimal.digits_ne_nil n)
  | cons c text =>
      rw [htext] at hhead hdigits
      exact whole_of_head? (by simp) hdigits (by simpa using hhead)

/-- The digits of a number that is not zero, and zeros. -/
theorem whole_digits_zeros {n : Nat} (hpos : 0 < n) (zeros : Nat) :
    Whole (digits n ++ List.replicate zeros '0') := by
  have hhead := Decimal.head?_digits hpos
  have hdigits : ∀ c ∈ digits n ++ List.replicate zeros '0', isDigit c = true := by
    intro c hc
    rcases List.mem_append.mp hc with hc | hc
    · exact Decimal.isDigit_of_mem_digits c hc
    · rw [List.eq_of_mem_replicate hc]
      decide
  cases htext : digits n with
  | nil => exact absurd htext (Decimal.digits_ne_nil n)
  | cons c text =>
      rw [htext] at hhead hdigits
      exact whole_of_head? (by simp) hdigits (by simpa using hhead)

theorem endsDigits_point (rest : List Char) : EndsDigits ('.' :: rest) :=
  Decimal.endsDigits_cons (by decide) rest

theorem endsDigits_mark (rest : List Char) : EndsDigits ('e' :: rest) :=
  Decimal.endsDigits_cons (by decide) rest

/-- A number is scanned through its whole digits. -/
theorem scanUnsigned_whole {whole rest : List Char} (hwhole : Whole whole)
    (hrest : EndsDigits rest) (minus : Bool) :
    scanUnsigned minus (whole ++ rest) = scanFraction minus whole rest := by
  obtain ⟨htake, hdrop⟩ := takeWhile_digits hwhole.isDigit hrest
  unfold scanUnsigned
  split
  case h_1 text tail htext =>
    -- a zero at the start is the only digit
    have hhead : whole.head? = some '0' := by
      cases whole with
      | nil => exact absurd rfl hwhole.ne_nil
      | cons c whole =>
          injection htext with hc
          rw [hc]
          rfl
    rw [hwhole.zero hhead] at htext ⊢
    have htail : rest = tail := (List.cons.inj htext).2
    subst htail
    have hnext : (rest.head?.map Decimal.isDigit).getD false = false := by
      cases rest with
      | nil => rfl
      | cons c rest => exact hrest c (by simp)
    rw [hnext]
    rfl
  case h_2 =>
    simp only [htake, hdrop]
    exact if_neg hwhole.ne_nil

theorem scanFraction_end {rest : List Char} (hrest : EndsNumber rest) (minus : Bool)
    (whole : List Char) :
    scanFraction minus whole rest = .number (wholeNumber minus (ofDigits whole) rest) rest := by
  cases rest with
  | nil => rfl
  | cons c rest =>
      obtain ⟨_, hpoint, hsmall, hgreat⟩ := hrest c (by simp)
      unfold scanFraction
      split
      · exact absurd (by injections) hpoint
      · exact absurd (by injections) hsmall
      · exact absurd (by injections) hgreat
      · rfl

/-- A fraction at the end of a number. -/
theorem scanFraction_point {fraction rest : List Char} (hfraction : fraction ≠ [])
    (hdigits : ∀ c ∈ fraction, isDigit c = true) (hrest : EndsNumber rest) (minus : Bool)
    (whole : List Char) :
    scanFraction minus whole ('.' :: (fraction ++ rest)) =
      .number (realNumber minus ⟨ofDigits (whole ++ fraction), -(fraction.length : Int)⟩ rest)
        rest := by
  obtain ⟨htake, hdrop⟩ := takeWhile_digits hdigits hrest.endsDigits
  simp only [scanFraction, htake, hdrop, if_neg hfraction]
  split
  · obtain ⟨_, _, hsmall, _⟩ := hrest 'e' (by simp)
    exact absurd rfl hsmall
  · obtain ⟨_, _, _, hgreat⟩ := hrest 'E' (by simp)
    exact absurd rfl hgreat
  · rfl

/-- A fraction before an exponent. -/
theorem scanFraction_point_mark {fraction : List Char} (hfraction : fraction ≠ [])
    (hdigits : ∀ c ∈ fraction, isDigit c = true) (minus : Bool) (whole rest : List Char) :
    scanFraction minus whole ('.' :: (fraction ++ 'e' :: rest)) =
      scanExponent minus ⟨ofDigits (whole ++ fraction), -(fraction.length : Int)⟩ rest := by
  obtain ⟨htake, hdrop⟩ := takeWhile_digits hdigits (endsDigits_mark rest)
  simp only [scanFraction, htake, hdrop, if_neg hfraction]

theorem scanFraction_mark (minus : Bool) (whole rest : List Char) :
    scanFraction minus whole ('e' :: rest) = scanExponent minus ⟨ofDigits whole, 0⟩ rest :=
  rfl

/-- An exponent with its sign. -/
theorem scanExponent_signed {rest : List Char} (hrest : EndsNumber rest) (minus : Bool)
    (d : Decimal) (exponent : Int) :
    ∃ reach, scanExponent minus d
        ((if exponent < 0 then '-' else '+') :: (digits exponent.natAbs ++ rest)) =
      .number (realNumber minus ⟨d.coefficient, d.exponent + exponent⟩ reach) rest := by
  obtain ⟨htake, hdrop⟩ :=
    takeWhile_digits (Decimal.isDigit_of_mem_digits (n := exponent.natAbs)) hrest.endsDigits
  refine ⟨afterExponent 0 (digits exponent.natAbs ++ rest), ?_⟩
  by_cases hnegative : exponent < 0
  · have hvalue : -(exponent.natAbs : Int) = exponent := by omega
    simp only [if_pos hnegative, scanExponent, htake, hdrop, if_neg (Decimal.digits_ne_nil _),
      Decimal.ofDigits_digits, if_true, hvalue]
  · have hvalue : (exponent.natAbs : Int) = exponent := by omega
    simp only [if_neg hnegative, scanExponent, htake, hdrop, if_neg (Decimal.digits_ne_nil _),
      Decimal.ofDigits_digits, Bool.false_eq_true, if_false, hvalue]

/-! ## Printed numerals -/

/-- Whole digits with a fraction. -/
theorem scanUnsigned_point {whole fraction rest : List Char} (hwhole : Whole whole)
    (hfraction : fraction ≠ []) (hdigits : ∀ c ∈ fraction, isDigit c = true)
    (hrest : EndsNumber rest) (minus : Bool) :
    scanUnsigned minus (whole ++ '.' :: (fraction ++ rest)) =
      .number (realNumber minus ⟨ofDigits (whole ++ fraction), -(fraction.length : Int)⟩ rest)
        rest := by
  rw [scanUnsigned_whole hwhole (endsDigits_point _),
    scanFraction_point hfraction hdigits hrest]

/-- The digits and zeros up to the point, and one more zero. -/
theorem scanUnsigned_zeros {coefficient : Nat} (hpos : 0 < coefficient) (zeros : Nat)
    {rest : List Char} (hrest : EndsNumber rest) (minus : Bool) :
    scanUnsigned minus (digits coefficient ++ List.replicate zeros '0' ++ ['.', '0'] ++ rest) =
      .number (realNumber minus ⟨coefficient * 10 ^ (zeros + 1), zeros - (zeros + 1 : Nat)⟩ rest)
        rest := by
  have htext : digits coefficient ++ List.replicate zeros '0' ++ ['.', '0'] ++ rest =
      (digits coefficient ++ List.replicate zeros '0') ++ '.' :: (['0'] ++ rest) := by
    simp
  have hvalue : ofDigits ((digits coefficient ++ List.replicate zeros '0') ++ ['0']) =
      coefficient * 10 ^ (zeros + 1) := by
    rw [List.append_assoc, ← List.replicate_succ', Decimal.ofDigits_append,
      Decimal.ofDigits_zeros, Decimal.ofDigits_digits, List.length_replicate, Nat.add_zero]
  have hexponent : -((['0'] : List Char).length : Int) = zeros - (zeros + 1 : Nat) := by
    rw [List.length_singleton]
    omega
  rw [htext, scanUnsigned_point (whole_digits_zeros hpos zeros) (by simp) isDigit_zero hrest,
    hvalue, hexponent]

/-- The point is among the digits. -/
theorem scanUnsigned_among {coefficient places : Nat} (hpos : 0 < coefficient)
    (hplaces : 0 < places) (hless : places < (digits coefficient).length) {rest : List Char}
    (hrest : EndsNumber rest) (minus : Bool) :
    scanUnsigned minus ((digits coefficient).take ((digits coefficient).length - places) ++
        '.' :: (digits coefficient).drop ((digits coefficient).length - places) ++ rest) =
      .number (realNumber minus ⟨coefficient, -(places : Int)⟩ rest) rest := by
  have hsplit := List.take_append_drop ((digits coefficient).length - places) (digits coefficient)
  have hlength : ((digits coefficient).drop ((digits coefficient).length - places)).length =
      places := by
    rw [List.length_drop]
    omega
  have hfraction : (digits coefficient).drop ((digits coefficient).length - places) ≠ [] :=
    List.ne_nil_of_length_pos (by omega)
  rw [List.append_assoc, List.cons_append, scanUnsigned_point
    (whole_take_digits hpos (by omega)) hfraction
    (fun c hc => Decimal.isDigit_of_mem_digits c (List.mem_of_mem_drop hc)) hrest,
    hsplit, hlength, Decimal.ofDigits_digits]

/-- The point is before the digits, perhaps with zeros between. -/
theorem scanUnsigned_before {coefficient places : Nat} (hplaces : 0 < places)
    (hmore : (digits coefficient).length ≤ places) {rest : List Char} (hrest : EndsNumber rest)
    (minus : Bool) :
    scanUnsigned minus ('0' :: '.' :: List.replicate (places - (digits coefficient).length) '0' ++
        digits coefficient ++ rest) =
      .number (realNumber minus ⟨coefficient, -(places : Int)⟩ rest) rest := by
  generalize hzeros : List.replicate (places - (digits coefficient).length) '0' = zeros
  have hlength : (zeros ++ digits coefficient).length = places := by
    rw [List.length_append, ← hzeros, List.length_replicate]
    omega
  have hvalue : ofDigits (['0'] ++ (zeros ++ digits coefficient)) = coefficient := by
    rw [← List.append_assoc, Decimal.ofDigits_append, Decimal.ofDigits_digits,
      List.singleton_append, ← hzeros, ← List.replicate_succ, Decimal.ofDigits_zeros]
    omega
  have hdigits : ∀ c ∈ zeros ++ digits coefficient, isDigit c = true := by
    intro c hc
    rcases List.mem_append.mp hc with hc | hc
    · rw [← hzeros] at hc
      rw [List.eq_of_mem_replicate hc]
      decide
    · exact Decimal.isDigit_of_mem_digits c hc
  have hscan := scanUnsigned_point whole_zero (List.ne_nil_of_length_pos (by omega)) hdigits hrest
    minus
  rw [hvalue, hlength] at hscan
  exact hscan

/-- A numeral in positional layout scans as one of the same value. -/
theorem scanUnsigned_positional {d : Decimal} (hpos : 0 < d.coefficient) {rest : List Char}
    (hrest : EndsNumber rest) (minus : Bool) :
    ∃ scanned : Decimal,
      scanUnsigned minus (Decimal.positional (digits d.coefficient) d.exponent ++ rest) =
        .number (realNumber minus scanned rest) rest ∧
      scanned.toBinary64 minus = d.toBinary64 minus := by
  obtain ⟨coefficient, exponent⟩ := d
  cases exponent with
  | ofNat zeros =>
      exact ⟨_, scanUnsigned_zeros hpos zeros hrest minus,
        Decimal.toBinary64_mul_pow minus _ hpos _⟩
  | negSucc n =>
      refine ⟨⟨coefficient, .negSucc n⟩, ?_, rfl⟩
      unfold Decimal.positional
      dsimp only
      split
      · next hless => exact scanUnsigned_among hpos n.succ_pos hless hrest minus
      · next hmore =>
        exact scanUnsigned_before n.succ_pos (Nat.le_of_not_lt hmore) hrest minus

/-- A numeral in scientific layout scans as itself. -/
theorem scanUnsigned_scientific {d : Decimal} (hpos : 0 < d.coefficient) {rest : List Char}
    (hrest : EndsNumber rest) (minus : Bool) :
    ∃ reach, scanUnsigned minus (Decimal.Layout.document.scientific (digits d.coefficient)
        (d.exponent + ((digits d.coefficient).length : Int) - 1) ++ rest) =
      .number (realNumber minus d reach) rest := by
  obtain ⟨coefficient, exponent⟩ := d
  have hwhole : Whole ((digits coefficient).take 1) := whole_take_digits hpos (by decide)
  have hdigits : ∀ c ∈ digits coefficient, isDigit c = true := Decimal.isDigit_of_mem_digits
  have hcoefficient := Decimal.ofDigits_digits coefficient
  generalize hleading : exponent + ((digits coefficient).length : Int) - 1 = leading
  have hmark : (if leading < 0 then Decimal.Layout.document.negativeMark
      else Decimal.Layout.document.positiveMark) = ['e', if leading < 0 then '-' else '+'] := by
    split <;> rfl
  simp only [Decimal.Layout.scientific, hmark]
  match htext : digits coefficient with
  | [] => exact absurd htext (Decimal.digits_ne_nil coefficient)
  | [c] =>
      -- one digit: the exponent follows at once
      rw [htext] at hwhole hcoefficient hleading
      have hfirst : Whole [c] := hwhole
      obtain ⟨reach, hscan⟩ := scanExponent_signed hrest minus ⟨coefficient, 0⟩ leading
      refine ⟨reach, ?_⟩
      have hexponent : (0 : Int) + leading = exponent := by
        simp at hleading
        omega
      rw [show ([c] ++ ['e', if leading < 0 then '-' else '+'] ++ digits leading.natAbs) ++ rest =
        [c] ++ 'e' ::
          ((if leading < 0 then '-' else '+') :: (digits leading.natAbs ++ rest)) by simp,
        scanUnsigned_whole hfirst (endsDigits_mark _), scanFraction_mark, hcoefficient, hscan,
        hexponent]
  | c :: next :: more =>
      rw [htext] at hwhole hcoefficient hleading hdigits
      have hfirst : Whole [c] := hwhole
      obtain ⟨reach, hscan⟩ := scanExponent_signed hrest minus
        ⟨coefficient, -((next :: more).length : Int)⟩ leading
      refine ⟨reach, ?_⟩
      have hexponent : -((next :: more).length : Int) + leading = exponent := by
        simp at hleading ⊢
        omega
      rw [show (c :: '.' :: next :: more ++ ['e', if leading < 0 then '-' else '+'] ++
        digits leading.natAbs) ++ rest = [c] ++ '.' :: ((next :: more) ++
          'e' :: ((if leading < 0 then '-' else '+') :: (digits leading.natAbs ++ rest))) by simp,
        scanUnsigned_whole hfirst (endsDigits_point _), scanFraction_point_mark (by simp)
          (fun c hc => hdigits c (List.mem_cons_of_mem _ hc)),
        List.singleton_append, hcoefficient, hscan, hexponent]

/-! ## Printed numbers -/

/-- A number that can do without a sign does not begin with one. -/
theorem scanNumber_of_scanUnsigned {text rest : List Char} {value : Except Fault Number}
    (h : scanUnsigned false text = .number value rest) : scanNumber text = .number value rest := by
  unfold scanNumber
  split
  · -- a minus is no digit
    rename_i rest
    have hminus : scanUnsigned false ('-' :: rest) = digitsMissing ('-' :: rest) := rfl
    rw [hminus] at h
    exact absurd h (digitsMissing_ne _)
  · exact h

/-- A printed integer scans as itself. -/
theorem scanNumber_integer {n : Int} (hfits : (Number.integer n).Fits) {rest : List Char}
    (hrest : EndsNumber rest) :
    scanNumber (Decimal.signedDigits n ++ rest) = .number (.ok (.integer n)) rest := by
  obtain ⟨hlow, hhigh⟩ := hfits
  have hscan : ∀ minus, scanUnsigned minus (digits n.natAbs ++ rest) =
      .number (wholeNumber minus n.natAbs rest) rest := by
    intro minus
    rw [scanUnsigned_whole (whole_digits _) hrest.endsDigits, scanFraction_end hrest,
      Decimal.ofDigits_digits]
  unfold Decimal.signedDigits
  split
  · have hvalue : wholeNumber true n.natAbs rest = .ok (.integer n) := by
      simp only [wholeNumber, Nat.pow_eq, if_true]
      rw [if_neg (by omega), show -(n.natAbs : Int) = n by omega]
    rw [List.cons_append]
    show scanUnsigned true _ = _
    rw [hscan, hvalue]
  · have hvalue : wholeNumber false n.natAbs rest = .ok (.integer n) := by
      simp only [wholeNumber, Nat.pow_eq, Bool.false_eq_true, if_false]
      rw [if_pos (by omega), show (n.natAbs : Int) = n by omega]
    exact scanNumber_of_scanUnsigned ((hscan false).trans (by rw [hvalue]))

/-- A printed magnitude, without the sign, scans as the value with the sign. -/
theorem scanUnsigned_shortest {magnitude : Nat} (hpos : 0 < magnitude)
    (hfinite : magnitude < Binary64.infinityMagnitude) {rest : List Char} (hrest : EndsNumber rest)
    (minus : Bool) :
    ∃ (scanned : Decimal) (reach : List Char),
      scanUnsigned minus (Decimal.Layout.document.write (Decimal.shortest magnitude) ++ rest) =
        .number (realNumber minus scanned reach) rest ∧
      scanned.toBinary64 minus = .ofMagnitude minus magnitude := by
  have hcoefficient := Decimal.coefficient_shortest_pos hpos hfinite
  rw [← Decimal.toBinary64_shortest minus hpos hfinite]
  simp only [Decimal.Layout.write]
  split
  · obtain ⟨scanned, hscan, hvalue⟩ := scanUnsigned_positional hcoefficient hrest minus
    exact ⟨scanned, rest, hscan, hvalue⟩
  · obtain ⟨reach, hscan⟩ := scanUnsigned_scientific hcoefficient hrest minus
    exact ⟨_, reach, hscan, rfl⟩

/-- A printed value, without the sign, scans as the value with the sign. -/
theorem scanUnsigned_real {x : Binary64} (hfinite : x.isFinite = true) {rest : List Char}
    (hrest : EndsNumber rest) :
    scanUnsigned x.negative ((if x.isZero then ['0', '.', '0']
        else Decimal.Layout.document.write (Decimal.shortest x.magnitude)) ++ rest) =
      .number (.ok (.real x)) rest := by
  have hvalue : ∀ {scanned : Decimal} {reach : List Char},
      scanned.toBinary64 x.negative = .ofMagnitude x.negative x.magnitude →
      realNumber x.negative scanned reach = .ok (.real x) := by
    intro scanned reach hscanned
    rw [Binary64.ofMagnitude_magnitude hfinite] at hscanned
    simp only [realNumber, hscanned, hfinite, if_true]
  by_cases hzero : x.isZero = true
  · have hmagnitude : x.magnitude = 0 := of_decide_eq_true hzero
    have hscan := scanUnsigned_point whole_zero (by simp) isDigit_zero hrest x.negative
    rw [if_pos hzero]
    refine hscan.trans ?_
    rw [hvalue]
    rw [hmagnitude]
    rfl
  · have hmagnitude : 0 < x.magnitude := by
      unfold Binary64.isZero at hzero
      simp at hzero
      omega
    obtain ⟨scanned, reach, hscan, hscanned⟩ :=
      scanUnsigned_shortest hmagnitude (of_decide_eq_true hfinite) hrest x.negative
    rw [if_neg hzero, hscan, hvalue hscanned]

/-- A printed finite value scans as itself. -/
theorem scanNumber_real {x : Binary64} (hfinite : x.isFinite = true) {rest : List Char}
    (hrest : EndsNumber rest) :
    scanNumber (Decimal.Layout.document.writeBinary64 x ++ rest) =
      .number (.ok (.real x)) rest := by
  have hscan := scanUnsigned_real hfinite hrest
  simp only [Decimal.Layout.writeBinary64]
  cases hsign : x.negative with
  | true =>
      rw [hsign] at hscan
      exact hscan
  | false =>
      rw [hsign] at hscan
      exact scanNumber_of_scanUnsigned hscan

/-- A number that documents can hold is printed so that scanning gives it back. -/
theorem scanNumber_print {n : Number} (hfits : n.Fits) {rest : List Char}
    (hrest : EndsNumber rest) : scanNumber (n.print ++ rest) = .number (.ok n) rest := by
  cases n with
  | integer n => exact scanNumber_integer hfits hrest
  | real x => exact scanNumber_real hfits hrest

end BankStatement.Json
