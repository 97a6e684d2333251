import BankStatement.Proofs.Statement.Amounts

/-!
# Whole cents

An amount rounded to cents is the value of a whole number of cents, `centCount`.  It keeps the sign
of the amount unless no cent is left (`roundCents_eq`).

The text of a value shows a whole number of cents too, `printedCents`, which is found from the value
without any rounding before.  Rounded to cents, an amount below `2 ^ 43` is printed with the cents
that it was rounded to (`printedCents_roundCents`).  This may fail for a greater one, but what is
not zero is never printed as zero (`printedCents_roundCents_pos`).
-/

namespace BankStatement

open Binary64

/-- How many cents an amount is rounded to, its sign aside. -/
def centCount (x : Binary64) : Nat :=
  roundHalfUp (units (x * .ofInt 100).magnitude) unitsPerOne

/-- The magnitude of that many cents: their number over a hundred, each rounded once. -/
def centMagnitude (x : Binary64) : Nat :=
  nearest (units (nearest (centCount x * unitsPerOne) 1)) 100

variable {x : Binary64}

/-! ## A hundred times the amount -/

theorem isFinite_of_mul_hundred (h : (x * .ofInt 100).isFinite = true) : x.isFinite = true := by
  apply Bool.of_not_eq_false
  intro hx
  have hnan : nan.isFinite = false := by decide
  have hinfinite : ∀ negative, (infinity negative).isFinite = false := by decide
  rcases mul_hundred_of_not_isFinite hx with hproduct | ⟨negative, hproduct⟩
  · rw [hproduct, hnan] at h
    cases h
  · rw [hproduct, hinfinite negative] at h
    cases h

theorem negative_mul_hundred (hx : x.isFinite = true) :
    (x * .ofInt 100).negative = x.negative := by
  rw [mul_hundred hx, negative_ofMagnitude]

theorem isFinite_mul_hundred (hx : x.isFinite = true)
    (hless : units x.magnitude < 2 ^ 43 * unitsPerOne) : (x * .ofInt 100).isFinite = true := by
  rw [mul_hundred hx, isFinite_ofMagnitude]
  apply nearest_lt_infinityMagnitude Nat.one_pos (by decide : 50 ≤ 1023)
  rw [Nat.mul_one]
  omega

/-- The cents of an amount are off by half a cent and by the error of one product. -/
theorem centCount_error (h : (x * .ofInt 100).isFinite = true) :
    2 ^ 54 * (centCount x * unitsPerOne) ≤
        2 ^ 54 * (100 * units x.magnitude) + 2 ^ 53 * unitsPerOne + 200 * units x.magnitude ∧
      2 ^ 54 * (100 * units x.magnitude) ≤
        2 ^ 54 * (centCount x * unitsPerOne) + 2 ^ 53 * unitsPerOne + 200 * units x.magnitude := by
  have hproduct := mul_hundred (isFinite_of_mul_hundred h)
  have hrounded := roundHalfUp_error (units (nearest (100 * units x.magnitude) 1)) unitsPerOne_pos
  have herror := nearest_one_relative_error (100 * units x.magnitude)
  rw [hproduct, isFinite_ofMagnitude] at h
  unfold centCount
  rw [hproduct, magnitude_ofMagnitude_of_lt _ h]
  omega

/-! ## The value of whole cents -/

/-- An amount rounded to cents has its sign, unless it is zero. -/
theorem roundCents_eq (h : (x * .ofInt 100).isFinite = true) :
    centMagnitude x < infinityMagnitude ∧
      roundCents x =
        ofMagnitude (x.negative && decide (centMagnitude x ≠ 0)) (centMagnitude x) := by
  have hsign := negative_mul_hundred (isFinite_of_mul_hundred h)
  -- the whole number of cents
  have hwholeFinite := isFinite_round h
  have hwhole : (x * .ofInt 100).round =
      ofMagnitude x.negative (nearest (centCount x * unitsPerOne) 1) := by
    rw [round_of_isFinite h, hsign]
    rfl
  -- the quotient
  have hfinite := isFinite_div_hundred hwholeFinite
  have hquotient := div_hundred hwholeFinite
  rw [hwhole, isFinite_ofMagnitude] at hwholeFinite
  rw [hwhole, negative_ofMagnitude, magnitude_ofMagnitude_of_lt _ hwholeFinite] at hquotient
  have hrounded : (x * .ofInt 100).round / .ofInt 100 =
      ofMagnitude x.negative (centMagnitude x) := by
    rw [hwhole, hquotient]
    rfl
  rw [hrounded, isFinite_ofMagnitude] at hfinite
  have hisZero : (ofMagnitude x.negative (centMagnitude x)).isZero =
      decide (centMagnitude x = 0) := by
    unfold isZero
    rw [magnitude_ofMagnitude_of_lt x.negative hfinite]
  refine ⟨hfinite, ?_⟩
  unfold roundCents
  simp only [hrounded, hisZero, decide_eq_true_eq]
  by_cases hzero : centMagnitude x = 0
  · simp [hzero, zero]
  · simp [hzero]

theorem two_pow_sixty_le_unitsPerOne : 2 ^ 60 ≤ unitsPerOne := by
  obtain ⟨n, hn⟩ : ∃ n, n = 1074 := ⟨_, rfl⟩
  rw [unitsPerOne_eq hn]
  exact Nat.pow_le_pow_right (by decide) (by omega)

/-- The value of whole cents is off by at most one part in `2 ^ 51`. -/
theorem centMagnitude_error (x : Binary64) :
    2 ^ 51 * (units (centMagnitude x) * 100) ≤
        2 ^ 51 * (centCount x * unitsPerOne) + centCount x * unitsPerOne ∧
      2 ^ 51 * (centCount x * unitsPerOne) ≤
        2 ^ 51 * (units (centMagnitude x) * 100) + centCount x * unitsPerOne := by
  unfold centMagnitude
  by_cases hzero : centCount x = 0
  · have hnothing : units (nearest (units (nearest 0 1)) 100) = 0 := by decide
    rw [hzero, Nat.zero_mul, hnothing]
    omega
  · have hlarge := two_pow_sixty_le_unitsPerOne
    have hone : unitsPerOne ≤ centCount x * unitsPerOne :=
      Nat.le_mul_of_pos_left _ (Nat.pos_of_ne_zero hzero)
    have hproduct := nearest_one_relative_error (centCount x * unitsPerOne)
    have hnormal : 2 ^ 52 * 100 ≤ units (nearest (centCount x * unitsPerOne) 1) := by omega
    have hquotient := nearest_relative_error (by decide) hnormal
    omega

/-- Half a cent or less is no cent at all. -/
theorem lt_units_centMagnitude (h : centCount x ≠ 0) :
    unitsPerOne < 2 * (units (centMagnitude x) * 100) := by
  have hpositive := unitsPerOne_pos
  have hone : unitsPerOne ≤ centCount x * unitsPerOne :=
    Nat.le_mul_of_pos_left _ (Nat.pos_of_ne_zero h)
  have herror := (centMagnitude_error x).2
  omega

theorem centMagnitude_eq_zero_iff : centMagnitude x = 0 ↔ centCount x = 0 := by
  constructor
  · intro hzero
    apply Decidable.byContradiction
    intro h
    have hless := lt_units_centMagnitude h
    rw [hzero, show units 0 = 0 from rfl] at hless
    omega
  · intro h
    unfold centMagnitude
    rw [h, Nat.zero_mul]
    decide

/-- An amount is below zero, rounded to cents, just when it is negative and has cents. -/
theorem negative_roundCents (h : (x * .ofInt 100).isFinite = true) :
    (roundCents x).negative = (x.negative && decide (centCount x ≠ 0)) := by
  simp only [(roundCents_eq h).2, negative_ofMagnitude, ne_eq, centMagnitude_eq_zero_iff]

/-! ## Printed cents -/

theorem units_roundCents (h : (x * .ofInt 100).isFinite = true) :
    units (roundCents x).magnitude = units (centMagnitude x) := by
  obtain ⟨hfinite, hvalue⟩ := roundCents_eq h
  rw [hvalue, magnitude_ofMagnitude_of_lt _ hfinite]

theorem printedCents_roundCents_pos (h : (x * .ofInt 100).isFinite = true)
    (hcents : centCount x ≠ 0) : 0 < printedCents (roundCents x) := by
  have hless := lt_units_centMagnitude hcents
  have herror := roundHalfEven_error (units (centMagnitude x) * 100) unitsPerOne_pos
  apply Nat.pos_of_ne_zero
  unfold printedCents
  rw [units_roundCents h]
  intro hzero
  rw [hzero] at herror
  omega

/-- An amount below `2 ^ 43` is printed with the cents that it was rounded to: the two roundings on
the way move it by less than half a cent. -/
theorem printedCents_roundCents (hx : x.isFinite = true)
    (hless : units x.magnitude < 2 ^ 43 * unitsPerOne) :
    printedCents (roundCents x) = centCount x := by
  have hproduct := isFinite_mul_hundred hx hless
  have hpositive := unitsPerOne_pos
  have hmost : centCount x * unitsPerOne < 2 ^ 50 * unitsPerOne := by
    have hcount := (centCount_error hproduct).1
    omega
  have herror := centMagnitude_error x
  unfold printedCents
  rw [units_roundCents hproduct]
  exact roundHalfEven_eq (by omega) (by omega)

end BankStatement
