import BankStatement.Proofs.Binary64.Error
import BankStatement.Proofs.Decimal.Hundredths
import BankStatement.Statement.Ofx

/-!
# Amounts as they are written

An amount is written after a multiplication, a rounding to a whole number, a division and one more
rounding, to two places.  A hundred times the amount decides what becomes of it.  When that is not
finite, the amount is written as `inf`, `-inf` or `NaN`; otherwise it is written with two places
(`Ofx.hasTwoPlaces_amount`), as none of the other steps leaves the finite values.
-/

namespace BankStatement

/-! ## Rounding half up -/

/-- Twice the rounding error is at most the divisor. -/
theorem roundHalfUp_error (num : Nat) {den : Nat} (hden : 0 < den) :
    2 * (roundHalfUp num den * den) ≤ 2 * num + den ∧
      2 * num < 2 * (roundHalfUp num den * den) + den := by
  have hdivision := Nat.div_add_mod (2 * num + den) (2 * den)
  have hremainder := Nat.mod_lt (2 * num + den) (by omega : 0 < 2 * den)
  unfold roundHalfUp
  rw [Nat.mul_comm (2 * den), Nat.mul_left_comm] at hdivision
  omega

/-- A quotient rounds to a number that it is within a half of, unless it is a half below it. -/
theorem roundHalfUp_eq {num den count : Nat} (hlow : 2 * (count * den) ≤ 2 * num + den)
    (hhigh : 2 * num < 2 * (count * den) + den) : roundHalfUp num den = count := by
  obtain ⟨habove, hbelow⟩ := roundHalfUp_error num (by omega : 0 < den)
  have hmost : roundHalfUp num den * den < (count + 1) * den := by
    rw [Nat.succ_mul]
    omega
  have hleast : count * den < (roundHalfUp num den + 1) * den := by
    rw [Nat.succ_mul]
    omega
  have hle := Nat.lt_of_mul_lt_mul_right hmost
  have hge := Nat.lt_of_mul_lt_mul_right hleast
  omega

/-- A whole number is not changed. -/
theorem roundHalfUp_mul (count : Nat) {den : Nat} (hden : 0 < den) :
    roundHalfUp (count * den) den = count :=
  roundHalfUp_eq (by omega) (by omega)

namespace Binary64

/-! ## A hundred -/

theorem isFinite_hundred : (ofInt 100).isFinite = true :=
  isFinite_ofInt (by decide) (by decide)

theorem ofInt_hundred : ofInt 100 = ⟨0x4059000000000000⟩ := by
  decide +kernel

theorem negative_hundred : (ofInt 100).negative = false := by
  rw [ofInt_hundred]
  decide

theorem isZero_hundred : (ofInt 100).isZero = false := by
  rw [ofInt_hundred]
  decide

theorem units_hundred : units (ofInt 100).magnitude = 100 * unitsPerOne := by
  decide +kernel

theorem mul_hundred {x : Binary64} (hx : x.isFinite = true) :
    x * ofInt 100 = ofMagnitude x.negative (nearest (100 * units x.magnitude) 1) := by
  have hsame : nearest (units x.magnitude * (100 * unitsPerOne)) unitsPerOne =
      nearest (100 * units x.magnitude) 1 := by
    apply nearest_congr unitsPerOne_pos Nat.one_pos
    rw [Nat.mul_one, Nat.mul_left_comm, Nat.mul_assoc]
  show mul x (ofInt 100) = _
  unfold mul
  rw [isNaN_of_isFinite hx, isNaN_of_isFinite isFinite_hundred, isInfinite_of_isFinite hx,
    isInfinite_of_isFinite isFinite_hundred, negative_hundred, units_hundred, hsame]
  simp only [Bool.or_self, Bool.false_eq_true, if_false, Bool.bne_false]

theorem div_hundred {y : Binary64} (hy : y.isFinite = true) :
    y / ofInt 100 = ofMagnitude y.negative (nearest (units y.magnitude) 100) := by
  have hsame : nearest (units y.magnitude * unitsPerOne) (100 * unitsPerOne) =
      nearest (units y.magnitude) 100 := by
    rw [Nat.mul_comm _ unitsPerOne, Nat.mul_comm 100, nearest_mul _ _ unitsPerOne_pos]
  show div y (ofInt 100) = _
  unfold div
  rw [isNaN_of_isFinite hy, isNaN_of_isFinite isFinite_hundred, isInfinite_of_isFinite hy,
    isInfinite_of_isFinite isFinite_hundred, isZero_hundred, negative_hundred, units_hundred, hsame]
  simp only [Bool.or_self, Bool.false_eq_true, if_false, Bool.bne_false]

/-- What is not finite is no number, or infinite. -/
theorem isNaN_or_isInfinite {x : Binary64} (hx : x.isFinite = false) :
    x.isNaN = true ∨ x.isNaN = false ∧ x.isInfinite = true := by
  have hle : infinityMagnitude ≤ x.magnitude := Nat.not_lt.mp (of_decide_eq_false hx)
  rcases Nat.eq_or_lt_of_le hle with hequal | hless
  · exact .inr ⟨decide_eq_false (Nat.not_lt.mpr (Nat.le_of_eq hequal.symm)),
      decide_eq_true hequal.symm⟩
  · exact .inl (decide_eq_true hless)

/-- It stays so when it is multiplied. -/
theorem mul_hundred_of_not_isFinite {x : Binary64} (hx : x.isFinite = false) :
    x * ofInt 100 = nan ∨ ∃ negative, x * ofInt 100 = infinity negative := by
  show mul x (ofInt 100) = nan ∨ ∃ negative, mul x (ofInt 100) = infinity negative
  unfold mul
  rw [isNaN_of_isFinite isFinite_hundred, isZero_hundred]
  rcases isNaN_or_isInfinite hx with hnan | ⟨hnan, hinfinite⟩
  · rw [hnan]
    exact .inl rfl
  · rw [hinfinite, hnan]
    exact .inr ⟨_, rfl⟩

/-- It stays so when it is divided. -/
theorem div_hundred_of_not_isFinite {y : Binary64} (hy : y.isFinite = false) :
    y / ofInt 100 = nan ∨ ∃ negative, y / ofInt 100 = infinity negative := by
  show div y (ofInt 100) = nan ∨ ∃ negative, div y (ofInt 100) = infinity negative
  unfold div
  rw [isNaN_of_isFinite isFinite_hundred, isInfinite_of_isFinite isFinite_hundred]
  rcases isNaN_or_isInfinite hy with hnan | ⟨hnan, hinfinite⟩
  · rw [hnan]
    exact .inl rfl
  · rw [hinfinite, hnan]
    exact .inr ⟨_, rfl⟩

/-! ## Whole numbers -/

theorem round_of_isFinite {y : Binary64} (hy : y.isFinite = true) :
    y.round = ofMagnitude y.negative
      (nearest (roundHalfUp (units y.magnitude) unitsPerOne * unitsPerOne) 1) := by
  unfold round ofRatio
  rw [if_pos hy]

theorem round_of_not_isFinite {y : Binary64} (hy : y.isFinite = false) : y.round = y := by
  unfold round
  rw [if_neg (by simp [hy])]

/-- A finite value is rounded to itself. -/
theorem nearest_units (magnitude : Nat) : nearest (units magnitude) 1 = magnitude := by
  by_cases hzero : magnitude = 0
  · rw [hzero]
    decide
  · have hpositive := units_pos (Nat.pos_of_ne_zero hzero)
    exact nearest_of_close Nat.one_pos ⟨by omega, by omega⟩

/-- Rounding to a whole number stays finite: a great value is whole already, and a lesser one is far
from the greatest. -/
theorem isFinite_round {y : Binary64} (hy : y.isFinite = true) : y.round.isFinite = true := by
  have hfinite : y.magnitude < infinityMagnitude := of_decide_eq_true hy
  rw [round_of_isFinite hy, isFinite_ofMagnitude]
  obtain ⟨n, hn⟩ : ∃ n, n = 1074 := ⟨_, rfl⟩
  obtain ⟨shift, significand, -, hunits, hless, -⟩ := exists_significand y.magnitude
  by_cases hwhole : n ≤ shift
  · have hcount : units y.magnitude = significand * 2 ^ (shift - n) * unitsPerOne := by
      rw [hunits, unitsPerOne_eq hn, Nat.mul_assoc, ← Nat.pow_add, Nat.sub_add_cancel hwhole]
    have hround := roundHalfUp_mul (significand * 2 ^ (shift - n)) unitsPerOne_pos
    rw [← hcount] at hround
    rwa [hround, ← hcount, nearest_units]
  · have hpower : 2 ^ shift ≤ unitsPerOne := by
      rw [unitsPerOne_eq hn]
      exact Nat.pow_le_pow_right (by decide) (by omega)
    have hsmall : units y.magnitude ≤ 2 ^ 53 * unitsPerOne := by
      rw [hunits]
      exact Nat.mul_le_mul (Nat.le_of_lt hless) hpower
    have herror := (roundHalfUp_error (units y.magnitude) unitsPerOne_pos).1
    have hpositive := unitsPerOne_pos
    apply nearest_lt_infinityMagnitude Nat.one_pos (by decide : 54 ≤ 1023)
    rw [Nat.mul_one]
    omega

theorem isFinite_div_hundred {y : Binary64} (hy : y.isFinite = true) :
    (y / ofInt 100).isFinite = true := by
  obtain ⟨k, hk⟩ : ∃ k, k = 1018 := ⟨_, rfl⟩
  have hfinite : y.magnitude < infinityMagnitude := of_decide_eq_true hy
  have hless := units_lt hfinite (by omega : 1024 ≤ k + 6)
  rw [div_hundred hy, isFinite_ofMagnitude]
  apply nearest_lt_infinityMagnitude (by decide) (by omega : k ≤ 1023)
  calc units y.magnitude < 2 ^ (k + 6) * unitsPerOne := hless
    _ = 2 ^ k * (unitsPerOne * 2 ^ 6) := by rw [Nat.pow_add, Nat.mul_assoc, Nat.mul_comm (2 ^ 6)]
    _ ≤ 2 ^ k * (unitsPerOne * 100) := Nat.mul_le_mul_left _ (Nat.mul_le_mul_left _ (by decide))

end Binary64

/-! ## Rounding to cents -/

/-- An amount that is finite a hundredfold is finite when it is rounded to cents. -/
theorem isFinite_roundCents {x : Binary64} (h : (x * .ofInt 100).isFinite = true) :
    (roundCents x).isFinite = true := by
  unfold roundCents
  simp only
  split
  · decide
  · exact Binary64.isFinite_div_hundred (Binary64.isFinite_round h)

/-- Any other is no number, or infinite. -/
theorem roundCents_of_not_isFinite {x : Binary64} (h : (x * .ofInt 100).isFinite = false) :
    roundCents x = .nan ∨ ∃ negative, roundCents x = .infinity negative := by
  have hround := Binary64.round_of_not_isFinite h
  unfold roundCents
  simp only [hround]
  rcases Binary64.div_hundred_of_not_isFinite h with hnan | ⟨negative, hinfinity⟩
  · rw [hnan, if_neg (by decide)]
    exact .inl rfl
  · have hzero : (Binary64.infinity negative).isZero = false := by
      cases negative <;> decide
    rw [hinfinity, if_neg (by simp [hzero])]
    exact .inr ⟨negative, rfl⟩

/-! ## The text of an amount -/

/-- How many cents the text of a finite value shows, its sign aside. -/
def printedCents (x : Binary64) : Nat :=
  roundHalfEven (Binary64.units x.magnitude * 100) Binary64.unitsPerOne

namespace Decimal

theorem fixed_of_isFinite {x : Binary64} (hx : x.isFinite = true) :
    fixed 2 x = (if x.negative then ['-'] else []) ++ withPlaces 2 (printedCents x) := by
  unfold fixed
  rw [Binary64.isNaN_of_isFinite hx, Binary64.isInfinite_of_isFinite hx]
  simp only [Bool.false_eq_true, if_false]
  rfl

/-- A finite value is read back as the hundredths that were written. -/
theorem hundredths?_fixed {x : Binary64} (hx : x.isFinite = true) :
    hundredths? (fixed 2 x) =
      some (if x.negative then -(printedCents x : Int) else (printedCents x : Int)) := by
  rw [fixed_of_isFinite hx]
  obtain ⟨hpositive, hnegative⟩ := hundredths?_withPlaces (printedCents x)
  cases x.negative with
  | false => exact hpositive
  | true => exact hnegative

end Decimal

namespace Ofx

/-- An amount is written with two places just when a hundred times the amount is finite. -/
theorem hasTwoPlaces_amount (x : Binary64) :
    Decimal.HasTwoPlaces (amount x).toList ↔ (x * .ofInt 100).isFinite = true := by
  rw [← Decimal.isSome_hundredths?, amount, amountText, String.toList_ofList]
  by_cases h : (x * .ofInt 100).isFinite = true
  · rw [Decimal.hundredths?_fixed (isFinite_roundCents h), h]
    rfl
  · rw [Bool.not_eq_true] at h
    rw [h]
    rcases roundCents_of_not_isFinite h with hnan | ⟨negative, hinfinity⟩
    · rw [hnan]
      decide
    · rw [hinfinity]
      cases negative <;> decide

end Ofx

end BankStatement
