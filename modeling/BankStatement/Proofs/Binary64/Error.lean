import BankStatement.Binary64.Arithmetic
import BankStatement.Proofs.Binary64.Nearest
import Mathlib.Data.List.Induction

/-!
# Rounding errors

What one rounding changes, in units.  A quotient below `2 ^ k` is rounded to a finite value, with an
error of at most `2 ^ (k - 54)` (`nearest_lt_infinityMagnitude`, `nearest_error_of_lt`); and a
quotient that is not too small is off by at most one part in `2 ^ 53` of itself
(`nearest_relative_error`).

Of a list of values that are added one after the other, the errors of the additions add up
(`total_error`).  No addition is off by more than the term that it adds (`add_error_le`), so the sum
stays below twice the sum of the absolute values however long the list is (`natAbs_total_le`).

All bounds are inequalities of natural numbers in which `unitsPerOne` is never evaluated, so that
what follows from several of them is linear arithmetic.
-/

namespace BankStatement.Binary64

/-! ## Magnitudes and units -/

/-- The units of a significand and a shift. -/
theorem units_of_significand {shift significand : Nat} (hlow : shift = 0 ∨ 2 ^ 52 ≤ significand)
    (hhigh : significand ≤ 2 ^ 53) :
    units (shift * 2 ^ 52 + significand) = significand * 2 ^ shift := by
  unfold units
  simp only [Nat.pow_eq]
  by_cases hsmall : shift * 2 ^ 52 + significand < 2 ^ 52
  · have hshift : shift = 0 := by omega
    rw [if_pos hsmall, hshift]
    omega
  · rw [if_neg hsmall]
    by_cases htop : significand = 2 ^ 53
    -- the carry out of the significand has made the shift greater
    · have hquotient : (shift * 2 ^ 52 + significand) / 2 ^ 52 - 1 = shift + 1 := by omega
      have hremainder : (shift * 2 ^ 52 + significand) % 2 ^ 52 = 0 := by omega
      rw [hquotient, hremainder, htop, Nat.pow_succ]
      omega
    · have hquotient : (shift * 2 ^ 52 + significand) / 2 ^ 52 - 1 = shift := by omega
      have hremainder : 2 ^ 52 + (shift * 2 ^ 52 + significand) % 2 ^ 52 = significand := by omega
      rw [hquotient, hremainder]

theorem unitsPerOne_eq {n : Nat} (h : n = 1074) : unitsPerOne = 2 ^ n := by
  unfold unitsPerOne
  rw [← h]
  exact Nat.pow_eq

/-- A bound in multiples of one, as a significand and a shift. -/
theorem two_pow_mul_unitsPerOne (k den : Nat) :
    2 ^ k * (unitsPerOne * den) = 2 ^ 53 * (2 ^ (1021 + k) * den) := by
  obtain ⟨n, hn⟩ : ∃ n, n = 1074 := ⟨_, rfl⟩
  rw [unitsPerOne_eq hn, ← Nat.mul_assoc, ← Nat.mul_assoc, ← Nat.pow_add, ← Nat.pow_add]
  congr 2
  omega

/-- Finite values are below `2 ^ 1024`. -/
theorem units_lt {magnitude k : Nat} (h : magnitude < infinityMagnitude) (hk : 1024 ≤ k) :
    units magnitude < 2 ^ k * unitsPerOne := by
  obtain ⟨shift, significand, hmagnitude, hunits, hless, htop⟩ := exists_significand magnitude
  have hshift : shift ≤ 1021 + k := by
    unfold infinityMagnitude at h
    simp only [Nat.pow_eq] at h
    omega
  have hbound := two_pow_mul_unitsPerOne k 1
  rw [Nat.mul_one, Nat.mul_one] at hbound
  rw [hunits, hbound]
  exact Nat.mul_lt_mul_of_lt_of_le hless (Nat.pow_le_pow_right (by decide) hshift)
    (Nat.two_pow_pos _)

/-! ## One rounding -/

theorem nearest_lt_infinityMagnitude {num den k : Nat} (hden : 0 < den) (hk : k ≤ 1023)
    (h : num < 2 ^ k * (unitsPerOne * den)) : nearest num den < infinityMagnitude := by
  rw [two_pow_mul_unitsPerOne] at h
  have hle := nearest_le hden h
  unfold infinityMagnitude
  simp only [Nat.pow_eq]
  omega

/-- Rounding a quotient that is large enough keeps its top bit. -/
theorem le_roundHalfEven {num den count : Nat} (hden : 0 < den) (h : count * den ≤ num) :
    count ≤ roundHalfEven num den := by
  have herror := roundHalfEven_error num hden
  apply Nat.le_of_not_lt
  intro hless
  have hnext := Nat.mul_le_mul_right den (Nat.succ_le_of_lt hless)
  rw [Nat.succ_mul] at hnext
  omega

/-- Every quotient has a number of bits that rounding drops. -/
theorem exists_shift (num : Nat) {den : Nat} (hden : 0 < den) :
    ∃ shift, (shift = 0 ∨ 2 ^ 52 * (2 ^ shift * den) ≤ num) ∧ num < 2 ^ 53 * (2 ^ shift * den) := by
  by_cases hsmall : num / den < 2 ^ 53
  · refine ⟨0, .inl rfl, ?_⟩
    rw [Nat.pow_zero, Nat.one_mul]
    exact (Nat.div_lt_iff_lt_mul hden).mp hsmall
  · have hlog : 52 ≤ (num / den).log2 := (Nat.le_log2 (by omega)).mpr (by omega)
    obtain ⟨shift, hshift⟩ := Nat.exists_eq_add_of_le hlog
    obtain ⟨hleast, hmost⟩ := (Nat.log2_eq_iff (by omega)).mp hshift
    refine ⟨shift, .inr ?_, ?_⟩
    · rw [← Nat.mul_assoc, ← Nat.pow_add]
      exact (Nat.le_div_iff_mul_le hden).mp hleast
    · rw [← Nat.mul_assoc, ← Nat.pow_add]
      refine (Nat.div_lt_iff_lt_mul hden).mp (Nat.lt_of_lt_of_eq hmost ?_)
      congr 1
      omega

/-- The units of a quotient of which rounding drops just `shift` bits. -/
theorem units_nearest {num den shift : Nat} (hden : 0 < den)
    (hlow : shift = 0 ∨ 2 ^ 52 * (2 ^ shift * den) ≤ num)
    (hhigh : num < 2 ^ 53 * (2 ^ shift * den)) :
    units (nearest num den) = roundHalfEven num (2 ^ shift * den) * 2 ^ shift := by
  have hpositive : 0 < 2 ^ shift * den := Nat.mul_pos (Nat.two_pow_pos _) hden
  rw [nearest_eq hden hlow hhigh]
  exact units_of_significand (hlow.imp id (le_roundHalfEven hpositive)) (roundHalfEven_le hhigh)

/-- The error of a quotient of which rounding drops just `shift` bits. -/
theorem nearest_error_of_shift {num den shift : Nat} (hden : 0 < den)
    (hlow : shift = 0 ∨ 2 ^ 52 * (2 ^ shift * den) ≤ num)
    (hhigh : num < 2 ^ 53 * (2 ^ shift * den)) :
    2 * (units (nearest num den) * den) ≤ 2 * num + 2 ^ shift * den ∧
      2 * num ≤ 2 * (units (nearest num den) * den) + 2 ^ shift * den := by
  rw [units_nearest hden hlow hhigh, Nat.mul_assoc]
  exact roundHalfEven_error num (Nat.mul_pos (Nat.two_pow_pos _) hden)

/-- A quotient of at most 53 bits before its last `shift` bits is off by at most half of those. -/
theorem nearest_error {num den shift : Nat} (hden : 0 < den)
    (h : num < 2 ^ 53 * (2 ^ shift * den)) :
    2 * (units (nearest num den) * den) ≤ 2 * num + 2 ^ shift * den ∧
      2 * num ≤ 2 * (units (nearest num den) * den) + 2 ^ shift * den := by
  induction shift with
  | zero => exact nearest_error_of_shift hden (.inl rfl) h
  | succ shift ih =>
      by_cases hlow : 2 ^ 52 * (2 ^ (shift + 1) * den) ≤ num
      · exact nearest_error_of_shift hden (.inr hlow) h
      · have hdouble : 2 ^ (shift + 1) * den = 2 * (2 ^ shift * den) := by
          rw [Nat.pow_succ, Nat.mul_comm _ 2, Nat.mul_assoc]
        have hless := ih (by omega)
        omega

/-- A quotient below `2 ^ k` is off by at most `2 ^ (k - 54)`. -/
theorem nearest_error_of_lt {num den k : Nat} (hden : 0 < den) (hk : k ≤ 53)
    (h : num < 2 ^ k * (unitsPerOne * den)) :
    2 ^ (54 - k) * (units (nearest num den) * den) ≤ 2 ^ (54 - k) * num + unitsPerOne * den ∧
      2 ^ (54 - k) * num ≤ 2 ^ (54 - k) * (units (nearest num den) * den) + unitsPerOne * den := by
  rw [two_pow_mul_unitsPerOne] at h
  obtain ⟨habove, hbelow⟩ := nearest_error hden h
  -- the error in multiples of one
  have hsplit : 2 ^ (54 - k) = 2 ^ (53 - k) * 2 := by
    rw [← Nat.pow_succ]
    congr 1
    omega
  have hone : 2 ^ (53 - k) * (2 ^ (1021 + k) * den) = unitsPerOne * den := by
    obtain ⟨n, hn⟩ : ∃ n, n = 1074 := ⟨_, rfl⟩
    rw [unitsPerOne_eq hn, ← Nat.mul_assoc, ← Nat.pow_add]
    congr 2
    omega
  rw [hsplit, Nat.mul_assoc, Nat.mul_assoc, ← hone, ← Nat.mul_add, ← Nat.mul_add]
  exact ⟨Nat.mul_le_mul_left _ habove, Nat.mul_le_mul_left _ hbelow⟩

/-- A quotient that is not subnormal is off by at most one part in `2 ^ 53`. -/
theorem nearest_relative_error {num den : Nat} (hden : 0 < den) (h : 2 ^ 52 * den ≤ num) :
    2 ^ 53 * (units (nearest num den) * den) ≤ 2 ^ 53 * num + num ∧
      2 ^ 53 * num ≤ 2 ^ 53 * (units (nearest num den) * den) + num := by
  obtain ⟨shift, hlow, hhigh⟩ := exists_shift num hden
  have hleast : 2 ^ 52 * (2 ^ shift * den) ≤ num := by
    rcases hlow with rfl | hlow
    · rwa [Nat.pow_zero, Nat.one_mul]
    · exact hlow
  have herror := nearest_error_of_shift hden hlow hhigh
  omega

/-- A whole number of units is off by at most one part in `2 ^ 53`, however small it is. -/
theorem nearest_one_relative_error (num : Nat) :
    2 ^ 53 * units (nearest num 1) ≤ 2 ^ 53 * num + num ∧
      2 ^ 53 * num ≤ 2 ^ 53 * units (nearest num 1) + num := by
  by_cases h : 2 ^ 52 ≤ num
  · have herror := nearest_relative_error Nat.one_pos (by omega : 2 ^ 52 * 1 ≤ num)
    rwa [Nat.mul_one] at herror
  · -- it is a subnormal value
    have hless : num < 2 ^ 53 * (2 ^ 0 * 1) := by omega
    have herror := nearest_error Nat.one_pos hless
    rw [Nat.mul_one] at herror
    omega

/-- No multiple of the divisor is closer than the one that rounding gives. -/
theorem roundHalfEven_closest {num den count gap : Nat} (hden : 0 < den)
    (hlow : count * den ≤ num + gap) (hhigh : num ≤ count * den + gap) :
    roundHalfEven num den * den ≤ num + gap ∧ num ≤ roundHalfEven num den * den + gap := by
  have herror := roundHalfEven_error num hden
  rcases Nat.lt_trichotomy (roundHalfEven num den) count with hless | hsame | hmore
  · have hnext := Nat.mul_le_mul_right den (Nat.succ_le_of_lt hless)
    rw [Nat.succ_mul] at hnext
    omega
  · rw [hsame]
    exact ⟨hlow, hhigh⟩
  · have hnext := Nat.mul_le_mul_right den (Nat.succ_le_of_lt hmore)
    rw [Nat.succ_mul] at hnext
    omega

/-- No value is closer to a whole number of units than the one that it is rounded to. -/
theorem nearest_closest {num magnitude gap : Nat} (hlow : units magnitude ≤ num + gap)
    (hhigh : num ≤ units magnitude + gap) :
    units (nearest num 1) ≤ num + gap ∧ num ≤ units (nearest num 1) + gap := by
  obtain ⟨shift, hleast, hmost⟩ := exists_shift num Nat.one_pos
  obtain ⟨bits, significand, -, hunits, hless, -⟩ := exists_significand magnitude
  -- a multiple of `2 ^ shift` that is no farther: the value itself, or the least one of 53 bits
  obtain ⟨count, hcountLow, hcountHigh⟩ : ∃ count,
      count * (2 ^ shift * 1) ≤ num + gap ∧ num ≤ count * (2 ^ shift * 1) + gap := by
    by_cases hbits : shift ≤ bits
    · obtain ⟨more, rfl⟩ := Nat.exists_eq_add_of_le hbits
      have hcount : significand * 2 ^ more * (2 ^ shift * 1) = units magnitude := by
        rw [hunits, Nat.mul_one, Nat.pow_add, Nat.mul_assoc, Nat.mul_comm (2 ^ more)]
      exact ⟨significand * 2 ^ more, hcount ▸ hlow, hcount ▸ hhigh⟩
    · have hfull := hleast.resolve_left (by omega)
      have hbelow : units magnitude ≤ 2 ^ 52 * (2 ^ shift * 1) := by
        calc units magnitude = significand * 2 ^ bits := hunits
          _ ≤ 2 ^ 53 * 2 ^ bits := Nat.mul_le_mul_right _ (Nat.le_of_lt hless)
          _ = 2 ^ 52 * 2 ^ (bits + 1) := by rw [Nat.pow_succ]; omega
          _ ≤ 2 ^ 52 * 2 ^ shift :=
            Nat.mul_le_mul_left _ (Nat.pow_le_pow_right (by decide) (by omega))
          _ = 2 ^ 52 * (2 ^ shift * 1) := by rw [Nat.mul_one]
      exact ⟨2 ^ 52, by omega, by omega⟩
  rw [units_nearest Nat.one_pos hleast hmost]
  rw [Nat.mul_one] at hcountLow hcountHigh ⊢
  exact roundHalfEven_closest (Nat.two_pow_pos _) hcountLow hcountHigh

/-- Rounding does not carry a number of units past a value. -/
theorem units_nearest_le {num magnitude : Nat} (h : num ≤ units magnitude) :
    units (nearest num 1) ≤ units magnitude := by
  have hlow : units magnitude ≤ num + (units magnitude - num) := by omega
  have hclosest := nearest_closest hlow (by omega)
  omega

theorem le_units_nearest {num magnitude : Nat} (h : units magnitude ≤ num) :
    units magnitude ≤ units (nearest num 1) := by
  have hhigh : num ≤ units magnitude + (num - units magnitude) := by omega
  have hclosest := nearest_closest (by omega) hhigh
  omega

/-- Every number of units of at most 53 bits before its last `shift` bits is a value. -/
theorem exists_units_eq {significand : Nat} (h : significand < 2 ^ 53) (shift : Nat) :
    ∃ magnitude, units magnitude = significand * 2 ^ shift := by
  obtain ⟨bits, hlow, hhigh⟩ := exists_shift (significand * 2 ^ shift) Nat.one_pos
  have hbits : bits ≤ shift := by
    rcases hlow with rfl | hlow
    · exact Nat.zero_le shift
    · have hless : 2 ^ 52 * 2 ^ bits < 2 ^ 52 * 2 ^ (shift + 1) := by
        calc 2 ^ 52 * 2 ^ bits ≤ significand * 2 ^ shift := by rwa [Nat.mul_one] at hlow
          _ < 2 ^ 53 * 2 ^ shift := Nat.mul_lt_mul_of_pos_right h (Nat.two_pow_pos _)
          _ = 2 ^ 52 * 2 ^ (shift + 1) := by rw [Nat.pow_succ]; omega
      have hpower := Nat.lt_of_mul_lt_mul_left hless
      exact Nat.le_of_lt_succ ((Nat.pow_lt_pow_iff_right (by decide)).mp hpower)
  obtain ⟨more, rfl⟩ := Nat.exists_eq_add_of_le hbits
  refine ⟨nearest (significand * 2 ^ (bits + more)) 1, ?_⟩
  have hmultiple : significand * 2 ^ (bits + more) = significand * 2 ^ more * (2 ^ bits * 1) := by
    rw [Nat.pow_add, Nat.mul_one, Nat.mul_comm (2 ^ bits), Nat.mul_assoc]
  have hpositive := Nat.two_pow_pos bits
  have hround : roundHalfEven (significand * 2 ^ more * (2 ^ bits * 1)) (2 ^ bits * 1) =
      significand * 2 ^ more := roundHalfEven_eq (by omega) (by omega)
  rw [units_nearest Nat.one_pos hlow hhigh, hmultiple, hround, Nat.mul_one]

/-! ## Signs -/

theorem negative_ofMagnitude (negative : Bool) (magnitude : Nat) :
    (ofMagnitude negative magnitude).negative = negative := by
  have hless : min magnitude infinityMagnitude < 2 ^ 63 :=
    Nat.lt_of_le_of_lt (Nat.min_le_right ..) (by decide)
  unfold ofMagnitude Binary64.negative
  simp only [Nat.pow_eq, UInt64.toNat_ofNat']
  cases negative
  · simp only [Bool.false_eq_true, if_false, decide_eq_false_iff_not]
    omega
  · simp only [if_true, decide_eq_true_eq]
    omega

theorem isFinite_ofMagnitude {negative : Bool} {magnitude : Nat} :
    (ofMagnitude negative magnitude).isFinite = true ↔ magnitude < infinityMagnitude := by
  unfold isFinite
  rw [magnitude_ofMagnitude, decide_eq_true_eq]
  omega

theorem magnitude_ofMagnitude_of_lt (negative : Bool) {magnitude : Nat}
    (h : magnitude < infinityMagnitude) :
    (ofMagnitude negative magnitude).magnitude = magnitude := by
  rw [magnitude_ofMagnitude, Nat.min_eq_left (Nat.le_of_lt h)]

theorem signedUnits_ofMagnitude (negative : Bool) {magnitude : Nat}
    (h : magnitude < infinityMagnitude) : (ofMagnitude negative magnitude).signedUnits =
      if negative then -(units magnitude : Int) else (units magnitude : Int) := by
  unfold signedUnits
  rw [negative_ofMagnitude, magnitude_ofMagnitude_of_lt negative h]

theorem natAbs_signedUnits (x : Binary64) : x.signedUnits.natAbs = units x.magnitude := by
  unfold signedUnits
  split <;> simp

theorem isNaN_of_isFinite {x : Binary64} (h : x.isFinite = true) : x.isNaN = false := by
  have hless : x.magnitude < infinityMagnitude := of_decide_eq_true h
  exact decide_eq_false (Nat.not_lt.mpr (Nat.le_of_lt hless))

theorem isInfinite_of_isFinite {x : Binary64} (h : x.isFinite = true) : x.isInfinite = false := by
  have hless : x.magnitude < infinityMagnitude := of_decide_eq_true h
  exact decide_eq_false (Nat.ne_of_lt hless)

/-! ## Sums -/

theorem add_of_isFinite {x y : Binary64} (hx : x.isFinite = true) (hy : y.isFinite = true) :
    x + y =
      if x.signedUnits + y.signedUnits = 0 then zero (x.negative && y.negative)
      else ofMagnitude (decide (x.signedUnits + y.signedUnits < 0))
        (nearest (x.signedUnits + y.signedUnits).natAbs 1) := by
  show add x y = _
  unfold add
  rw [isNaN_of_isFinite hx, isNaN_of_isFinite hy, isInfinite_of_isFinite hx,
    isInfinite_of_isFinite hy]
  simp only [Bool.or_self, Bool.false_eq_true, if_false]

theorem signedUnits_zero (negative : Bool) : (zero negative).signedUnits = 0 := by
  have hunits : units 0 = 0 := rfl
  unfold zero
  rw [signedUnits_ofMagnitude negative (by decide), hunits]
  split <;> rfl

theorem isFinite_zero (negative : Bool) : (zero negative).isFinite = true :=
  isFinite_ofMagnitude.mpr (by decide)

/-- What an addition changes is what the rounding of the exact sum changes. -/
theorem add_rounding {x y : Binary64} {k : Nat} (hx : x.isFinite = true) (hy : y.isFinite = true)
    (hk : k ≤ 1023) (h : (x.signedUnits + y.signedUnits).natAbs < 2 ^ k * unitsPerOne) :
    (x + y).isFinite = true ∧
      ((x + y).signedUnits - (x.signedUnits + y.signedUnits)).natAbs =
        ((units (nearest (x.signedUnits + y.signedUnits).natAbs 1) : Int) -
          (x.signedUnits + y.signedUnits).natAbs).natAbs := by
  rw [add_of_isFinite hx hy]
  generalize x.signedUnits + y.signedUnits = sum at h ⊢
  by_cases hzero : sum = 0
  · have hnothing : units (nearest (Int.natAbs 0) 1) = 0 := by decide
    rw [if_pos hzero, hzero, signedUnits_zero, hnothing]
    exact ⟨isFinite_zero _, rfl⟩
  · have hfinite := nearest_lt_infinityMagnitude Nat.one_pos hk (by rwa [Nat.mul_one])
    rw [if_neg hzero, signedUnits_ofMagnitude _ hfinite]
    refine ⟨isFinite_ofMagnitude.mpr hfinite, ?_⟩
    by_cases hnegative : sum < 0
    · rw [if_pos (decide_eq_true hnegative)]
      omega
    · rw [if_neg (by simpa using hnegative)]
      omega

/-- An addition is off by at most its second term, since the first one is a value itself. -/
theorem add_error_le {x y : Binary64} {k : Nat} (hx : x.isFinite = true) (hy : y.isFinite = true)
    (hk : k ≤ 1023) (h : (x.signedUnits + y.signedUnits).natAbs < 2 ^ k * unitsPerOne) :
    ((x + y).signedUnits - (x.signedUnits + y.signedUnits)).natAbs ≤ units y.magnitude := by
  have hleft := natAbs_signedUnits x
  have hright := natAbs_signedUnits y
  rw [(add_rounding hx hy hk h).2]
  have habove : units x.magnitude ≤
      (x.signedUnits + y.signedUnits).natAbs + units y.magnitude := by omega
  have hbelow : (x.signedUnits + y.signedUnits).natAbs ≤
      units x.magnitude + units y.magnitude := by omega
  have hclosest := nearest_closest habove hbelow
  omega

/-- An addition below `2 ^ k` is off by at most `2 ^ (k - 54)`. -/
theorem add_error {x y : Binary64} {k : Nat} (hx : x.isFinite = true) (hy : y.isFinite = true)
    (hk : k ≤ 53) (h : (x.signedUnits + y.signedUnits).natAbs < 2 ^ k * unitsPerOne) :
    2 ^ (54 - k) *
      ((x + y).signedUnits - (x.signedUnits + y.signedUnits)).natAbs ≤ unitsPerOne := by
  rw [(add_rounding hx hy (by omega) h).2]
  generalize (x.signedUnits + y.signedUnits).natAbs = exact at h ⊢
  have herror := nearest_error_of_lt Nat.one_pos hk (by rwa [Nat.mul_one])
  rw [Nat.mul_one, Nat.mul_one] at herror
  rcases Nat.le_total exact (units (nearest exact 1)) with hmore | hless
  · rw [← Int.ofNat_sub hmore, Int.natAbs_natCast, Nat.mul_sub]
    omega
  · rw [← Int.natAbs_neg, Int.neg_sub, ← Int.ofNat_sub hless, Int.natAbs_natCast, Nat.mul_sub]
    omega

/-- Adding a positive value that is close to `step` of the last places of a sum moves the sum by
just that many of them. -/
theorem add_of_step {x : Binary64} {shift significand step : Nat} (hshift : shift ≤ 2044)
    (hlow : 2 ^ 52 ≤ significand) (hhigh : significand + step < 2 ^ 53) (hx : x.isFinite = true)
    (hpositive : x.negative = false)
    (hmore : 2 * (step * 2 ^ shift) < 2 * units x.magnitude + 2 ^ shift)
    (hless : 2 * units x.magnitude < 2 * (step * 2 ^ shift) + 2 ^ shift) :
    ofMagnitude false (shift * 2 ^ 52 + significand) + x =
      ofMagnitude false (shift * 2 ^ 52 + (significand + step)) := by
  have hfinite : shift * 2 ^ 52 + significand < infinityMagnitude := by
    unfold infinityMagnitude
    simp only [Nat.pow_eq]
    omega
  have hunits : units (shift * 2 ^ 52 + significand) = significand * 2 ^ shift :=
    units_of_significand (.inr hlow) (by omega)
  have hscale := Nat.two_pow_pos shift
  have hleast : 2 ^ 52 * 2 ^ shift ≤ significand * 2 ^ shift := Nat.mul_le_mul_right _ hlow
  have hmost : (significand + step + 1) * 2 ^ shift ≤ 2 ^ 53 * 2 ^ shift :=
    Nat.mul_le_mul_right _ (Nat.succ_le_of_lt hhigh)
  rw [Nat.add_mul, Nat.add_mul, Nat.one_mul] at hmost
  have hround : roundHalfEven (significand * 2 ^ shift + units x.magnitude) (2 ^ shift * 1) =
      significand + step := by
    rw [Nat.mul_one]
    apply roundHalfEven_eq
    · rw [Nat.add_mul]
      omega
    · rw [Nat.add_mul]
      omega
  have hnearest : nearest (significand * 2 ^ shift + units x.magnitude) 1 =
      shift * 2 ^ 52 + (significand + step) := by
    rw [← hround]
    exact nearest_eq Nat.one_pos (.inr (by omega)) (by omega)
  have hsum : (ofMagnitude false (shift * 2 ^ 52 + significand)).signedUnits + x.signedUnits =
      ((significand * 2 ^ shift + units x.magnitude : Nat) : Int) := by
    rw [signedUnits_ofMagnitude false hfinite, hunits]
    unfold signedUnits
    rw [hpositive]
    simp
  have hsignificand : 0 < significand * 2 ^ shift := Nat.mul_pos (by omega) hscale
  have hnonzero : ((significand * 2 ^ shift + units x.magnitude : Nat) : Int) ≠ 0 :=
    Int.natCast_ne_zero.mpr (Nat.ne_of_gt (Nat.add_pos_left hsignificand _))
  rw [add_of_isFinite (isFinite_ofMagnitude.mpr hfinite) hx, hsum, if_neg hnonzero,
    Int.natAbs_natCast, hnearest, decide_eq_false (Int.not_lt.mpr (Int.natCast_nonneg _))]

/-! ## Sums of lists -/

/-- The sum of the absolute values, in units. -/
def absoluteUnits : List Binary64 → Nat
  | [] => 0
  | value :: rest => units value.magnitude + absoluteUnits rest

/-- The exact sum, in units. -/
def exactUnits : List Binary64 → Int
  | [] => 0
  | value :: rest => value.signedUnits + exactUnits rest

/-- The sum of the values as they are added one after the other, which starts at minus zero. -/
def total (values : List Binary64) : Binary64 :=
  values.foldl (· + ·) (zero true)

@[simp] theorem absoluteUnits_append (values more : List Binary64) :
    absoluteUnits (values ++ more) = absoluteUnits values + absoluteUnits more := by
  induction values with
  | nil => exact (Nat.zero_add _).symm
  | cons value rest ih => rw [List.cons_append, absoluteUnits, ih, absoluteUnits, Nat.add_assoc]

@[simp] theorem absoluteUnits_singleton (value : Binary64) :
    absoluteUnits [value] = units value.magnitude :=
  rfl

@[simp] theorem absoluteUnits_replicate (count : Nat) (value : Binary64) :
    absoluteUnits (List.replicate count value) = count * units value.magnitude := by
  induction count with
  | zero => exact (Nat.zero_mul _).symm
  | succ count ih => rw [List.replicate_succ, absoluteUnits, ih, Nat.succ_mul, Nat.add_comm]

@[simp] theorem exactUnits_append (values more : List Binary64) :
    exactUnits (values ++ more) = exactUnits values + exactUnits more := by
  induction values with
  | nil => exact (Int.zero_add _).symm
  | cons value rest ih => rw [List.cons_append, exactUnits, ih, exactUnits, Int.add_assoc]

@[simp] theorem exactUnits_singleton (value : Binary64) : exactUnits [value] = value.signedUnits :=
  Int.add_zero _

@[simp] theorem total_nil : total [] = zero true :=
  rfl

@[simp] theorem total_append_singleton (values : List Binary64) (value : Binary64) :
    total (values ++ [value]) = total values + value := by
  simp [total]

theorem absoluteUnits_le_of_prefix {before values : List Binary64} (h : before <+: values) :
    absoluteUnits before ≤ absoluteUnits values := by
  obtain ⟨after, rfl⟩ := h
  rw [absoluteUnits_append]
  exact Nat.le_add_right _ _

theorem units_le_absoluteUnits {values : List Binary64} {value : Binary64} (h : value ∈ values) :
    units value.magnitude ≤ absoluteUnits values := by
  obtain ⟨before, after, rfl⟩ := List.append_of_mem h
  rw [List.append_cons, absoluteUnits_append, absoluteUnits_append, absoluteUnits_singleton]
  omega

theorem natAbs_exactUnits_le (values : List Binary64) :
    (exactUnits values).natAbs ≤ absoluteUnits values := by
  induction values using List.reverseRecOn with
  | nil => exact Nat.le_refl _
  | append_singleton values value ih =>
      have hunits := natAbs_signedUnits value
      rw [exactUnits_append, absoluteUnits_append, exactUnits_singleton, absoluteUnits_singleton]
      omega

/-- However many values there are, no sum is greater than twice their absolute values. -/
theorem natAbs_total_le {values : List Binary64} {k : Nat} (hk : k ≤ 1023)
    (hvalues : ∀ value ∈ values, value.isFinite = true)
    (hsize : 2 * absoluteUnits values < 2 ^ k * unitsPerOne) :
    (total values).isFinite = true ∧
      (total values).signedUnits.natAbs ≤ 2 * absoluteUnits values := by
  induction values using List.reverseRecOn with
  | nil =>
      rw [total_nil, signedUnits_zero]
      exact ⟨isFinite_zero true, Nat.zero_le _⟩
  | append_singleton values value ih =>
      rw [absoluteUnits_append, absoluteUnits_singleton] at hsize ⊢
      obtain ⟨hfinite, hle⟩ := ih (fun earlier h => hvalues earlier (List.mem_append_left _ h))
        (by omega)
      have hvalue := hvalues value (List.mem_append_right _ (List.mem_singleton_self value))
      have hunits := natAbs_signedUnits value
      have hless : ((total values).signedUnits + value.signedUnits).natAbs <
          2 ^ k * unitsPerOne := by omega
      have herror := add_error_le hfinite hvalue hk hless
      rw [total_append_singleton]
      exact ⟨(add_rounding hfinite hvalue hk hless).1, by omega⟩

/-- Adding values one after the other adds up the errors of the additions. -/
theorem total_error {values : List Binary64} {k : Nat} (hk : k ≤ 53)
    (hvalues : ∀ value ∈ values, value.isFinite = true)
    (hsums : ∀ before value, before ++ [value] <+: values → (total before).isFinite = true ∧
      ((total before).signedUnits + value.signedUnits).natAbs < 2 ^ k * unitsPerOne) :
    2 ^ (54 - k) * ((total values).signedUnits - exactUnits values).natAbs ≤
      values.length * unitsPerOne := by
  induction values using List.reverseRecOn with
  | nil =>
      rw [total_nil, signedUnits_zero]
      exact Nat.zero_le _
  | append_singleton values value ih =>
      have hearlier := ih (fun earlier h => hvalues earlier (List.mem_append_left _ h))
        (fun before next h => hsums before next (h.trans (List.prefix_append ..)))
      have hvalue := hvalues value (List.mem_append_right _ (List.mem_singleton_self value))
      obtain ⟨hfinite, hless⟩ := hsums values value (List.prefix_refl _)
      have herror := add_error hfinite hvalue hk hless
      rw [total_append_singleton, exactUnits_append, exactUnits_singleton, List.length_append,
        List.length_singleton, Nat.add_mul, Nat.one_mul]
      calc 2 ^ (54 - k) *
            ((total values + value).signedUnits - (exactUnits values + value.signedUnits)).natAbs
        _ ≤ 2 ^ (54 - k) * (((total values).signedUnits - exactUnits values).natAbs +
            ((total values + value).signedUnits -
              ((total values).signedUnits + value.signedUnits)).natAbs) :=
          Nat.mul_le_mul_left _ (by omega)
        _ ≤ values.length * unitsPerOne + unitsPerOne := by
          rw [Nat.mul_add]
          exact Nat.add_le_add hearlier herror

end BankStatement.Binary64
