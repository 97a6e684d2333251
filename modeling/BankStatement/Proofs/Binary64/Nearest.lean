import Mathlib.Algebra.Group.Int.Defs
import Mathlib.Algebra.Group.Nat.Defs
import BankStatement.Binary64.Basic

/-!
# Rounding to binary64

A magnitude is a significand below `2 ^ 53` and a shift (`exists_significand`), and rounding finds
both: the shift from the size of the quotient, the significand by rounding what the shift leaves
(`nearest_eq`).  So a quotient that is nearer to a magnitude than one part in `2 ^ 54` is rounded to
it (`nearest_of_close`).

The only turn in this is at the powers of two.  Below them the spacing is half of what it is above,
and a quotient just below one is rounded with the lesser shift, up to the power again.
-/

namespace BankStatement

/-! ## Rounded quotients -/

/-- A quotient rounds to a number that it is nearer to than a half. -/
theorem roundHalfEven_eq {num den count : Nat} (hlow : 2 * (count * den) < 2 * num + den)
    (hhigh : 2 * num < 2 * (count * den) + den) : roundHalfEven num den = count := by
  have hden : 0 < den := by omega
  have hdivision := Nat.div_add_mod num den
  have hremainder := Nat.mod_lt num hden
  rw [Nat.mul_comm] at hdivision
  -- the quotient is the number, or one less
  have hle : num / den ≤ count := by
    apply Nat.le_of_not_lt
    intro hmore
    have : (count + 1) * den ≤ num / den * den := Nat.mul_le_mul_right den (by omega)
    rw [Nat.add_mul] at this
    omega
  have hge : count ≤ num / den + 1 := by
    apply Nat.le_of_not_lt
    intro hless
    have : (num / den + 2) * den ≤ count * den := Nat.mul_le_mul_right den (by omega)
    rw [Nat.add_mul] at this
    omega
  unfold roundHalfEven
  rcases Nat.eq_or_lt_of_le hle with heq | hlt
  · rw [heq] at hdivision
    simp only [heq]
    rw [if_pos (by omega)]
  · have hcount : count = num / den + 1 := by omega
    rw [hcount, Nat.add_mul] at hlow
    simp only
    rw [if_neg (by omega), if_pos (by omega), hcount]

theorem roundHalfEven_le {num den count : Nat} (h : num < count * den) :
    roundHalfEven num den ≤ count := by
  have hquotient : num / den < count := Nat.div_lt_of_lt_mul (by rwa [Nat.mul_comm])
  unfold roundHalfEven
  simp only
  split
  · omega
  · split
    · omega
    · split <;> omega

/-- Twice the rounding error is at most the divisor. -/
theorem roundHalfEven_error (num : Nat) {den : Nat} (hden : 0 < den) :
    2 * (roundHalfEven num den * den) ≤ 2 * num + den ∧
      2 * num ≤ 2 * (roundHalfEven num den * den) + den := by
  have hdivision := Nat.div_add_mod num den
  have hremainder := Nat.mod_lt num hden
  rw [Nat.mul_comm] at hdivision
  unfold roundHalfEven
  simp only
  split
  · omega
  · split
    · rw [Nat.add_mul]
      omega
    · split
      · omega
      · rw [Nat.add_mul]
        omega

theorem roundHalfEven_mul (num den : Nat) {factor : Nat} (h : 0 < factor) :
    roundHalfEven (factor * num) (factor * den) = roundHalfEven num den := by
  have hless : 2 * (factor * (num % den)) < factor * den ↔ 2 * (num % den) < den := by
    rw [Nat.mul_left_comm, Nat.mul_lt_mul_left h]
  have hmore : factor * den < 2 * (factor * (num % den)) ↔ den < 2 * (num % den) := by
    rw [Nat.mul_left_comm, Nat.mul_lt_mul_left h]
  unfold roundHalfEven
  simp only [Nat.mul_div_mul_left _ _ h, Nat.mul_mod_mul_left, hless, hmore]

namespace Binary64

/-! ## Signs and magnitudes -/

theorem magnitude_ofMagnitude (negative : Bool) (magnitude : Nat) :
    (ofMagnitude negative magnitude).magnitude = min magnitude infinityMagnitude := by
  have hless : min magnitude infinityMagnitude < 2 ^ 63 :=
    Nat.lt_of_le_of_lt (Nat.min_le_right ..) (by decide)
  unfold ofMagnitude Binary64.magnitude
  simp only [Nat.pow_eq, UInt64.toNat_ofNat']
  cases negative
  · simp only [Bool.false_eq_true, if_false]
    omega
  · simp only [if_true]
    omega

/-- A value that is a number is its sign and its magnitude. -/
theorem ofMagnitude_magnitude {x : Binary64} (h : x.isFinite = true) :
    ofMagnitude x.negative x.magnitude = x := by
  have hless : x.magnitude < infinityMagnitude := of_decide_eq_true h
  have hbits := x.bits.toNat_lt
  have hnumber : (if x.negative then 2 ^ 63 else 0) + x.magnitude = x.bits.toNat := by
    unfold negative magnitude
    simp only [Nat.pow_eq, decide_eq_true_eq]
    split <;> omega
  unfold ofMagnitude
  rw [Nat.min_eq_left (Nat.le_of_lt hless), Nat.pow_eq, hnumber, UInt64.ofNat_toNat]

theorem ofMagnitude_min (negative : Bool) (magnitude : Nat) :
    ofMagnitude negative (min magnitude infinityMagnitude) = ofMagnitude negative magnitude := by
  unfold ofMagnitude
  rw [Nat.min_assoc, Nat.min_self]

/-! ## Significands and shifts -/

/-- A magnitude is a shift in its upper bits plus a significand, of which the top bit is carried
into them. -/
theorem exists_significand (magnitude : Nat) :
    ∃ shift significand, magnitude = shift * 2 ^ 52 + significand ∧
      units magnitude = significand * 2 ^ shift ∧ significand < 2 ^ 53 ∧
      (shift = 0 ∨ 2 ^ 52 ≤ significand) := by
  unfold units
  simp only [Nat.pow_eq]
  split
  · exact ⟨0, magnitude, by omega, by omega, by omega, .inl rfl⟩
  · exact ⟨magnitude / 2 ^ 52 - 1, 2 ^ 52 + magnitude % 2 ^ 52, by omega, rfl, by omega,
      .inr (by omega)⟩

theorem units_pos {magnitude : Nat} (h : 0 < magnitude) : 0 < units magnitude := by
  obtain ⟨shift, significand, hmagnitude, hunits, -, htop⟩ := exists_significand magnitude
  have hsignificand : 0 < significand := by omega
  rw [hunits]
  exact Nat.mul_pos hsignificand (Nat.two_pow_pos _)

theorem log2_units_lt {magnitude : Nat} (hpos : 0 < magnitude)
    (hfinite : magnitude < infinityMagnitude) : (units magnitude).log2 < 2098 := by
  have hunitsPos := Nat.ne_of_gt (units_pos hpos)
  obtain ⟨shift, significand, hmagnitude, hunits, hless, htop⟩ := exists_significand magnitude
  unfold infinityMagnitude at hfinite
  simp only [Nat.pow_eq] at hfinite
  have hlog : (units magnitude).log2 < 53 + shift := by
    rw [Nat.log2_lt hunitsPos, hunits, Nat.pow_add]
    exact Nat.mul_lt_mul_of_pos_right hless (Nat.two_pow_pos _)
  omega

/-- A quotient of 53 bits before its last `shift` bits is rounded to those 53 bits. -/
theorem nearest_eq {num den shift : Nat} (hden : 0 < den)
    (hlow : shift = 0 ∨ 2 ^ 52 * (2 ^ shift * den) ≤ num)
    (hhigh : num < 2 ^ 53 * (2 ^ shift * den)) :
    nearest num den = shift * 2 ^ 52 + roundHalfEven num (2 ^ shift * den) := by
  have hwhole : num / den < 2 ^ 53 * 2 ^ shift := by
    apply Nat.div_lt_of_lt_mul
    rwa [Nat.mul_comm, Nat.mul_assoc]
  have hshift : (if num / den < 2 ^ 53 then 0 else (num / den).log2 - 52) = shift := by
    rcases hlow with rfl | hlow
    · exact if_pos (by simpa using hwhole)
    · have hleast : 2 ^ 52 * 2 ^ shift ≤ num / den := by
        rw [Nat.le_div_iff_mul_le hden, Nat.mul_assoc]
        exact hlow
      cases shift with
      | zero => exact if_pos (by simpa using hwhole)
      | succ shift =>
          rw [← Nat.pow_add, Nat.add_comm] at hwhole hleast
          have hlarge : 2 ^ 53 ≤ num / den :=
            Nat.le_trans (Nat.pow_le_pow_right (by decide) (by omega)) hleast
          have hlog : (num / den).log2 = shift + 1 + 52 :=
            (Nat.log2_eq_iff (by omega)).mpr ⟨hleast, hwhole⟩
          rw [if_neg (by omega), hlog, Nat.add_sub_cancel]
  unfold nearest
  simp only [Nat.pow_eq, hshift, Nat.mul_comm den]

/-- A quotient just below a power of two is rounded up to it, when it is nearer to the power than to
the last magnitude before it. -/
theorem nearest_below_power {num den shift : Nat} (hden : 0 < den)
    (hlow : (2 ^ 54 - 1) * (2 ^ shift * den) < 2 * num) (hhigh : num < 2 ^ 53 * (2 ^ shift * den)) :
    nearest num den = (shift + 1) * 2 ^ 52 + 2 ^ 52 := by
  have hround : roundHalfEven num (2 ^ shift * den) = 2 ^ 53 :=
    roundHalfEven_eq (by omega) (by omega)
  rw [nearest_eq hden (.inr (by omega)) hhigh, hround]
  omega

/-- The quotient is nearer to a number of units than one part in `2 ^ 54` of them. -/
structure Close (num den count : Nat) : Prop where
  above : 2 ^ 54 * (count * den) < 2 ^ 54 * num + count * den
  below : 2 ^ 54 * num < 2 ^ 54 * (count * den) + count * den

/-- A quotient that is close to a magnitude is rounded to it. -/
theorem nearest_of_close {num den magnitude : Nat} (hden : 0 < den)
    (h : Close num den (units magnitude)) : nearest num den = magnitude := by
  obtain ⟨shift, significand, hmagnitude, hunits, hless, htop⟩ := exists_significand magnitude
  obtain ⟨habove, hbelow⟩ := h
  have hcount : units magnitude * den = significand * (2 ^ shift * den) := by
    rw [hunits, Nat.mul_assoc]
  have hmost : significand * (2 ^ shift * den) ≤ (2 ^ 53 - 1) * (2 ^ shift * den) :=
    Nat.mul_le_mul_right _ (by omega)
  rw [hcount] at habove hbelow
  by_cases hlow : shift = 0 ∨ 2 ^ 52 * (2 ^ shift * den) ≤ num
  · have hround : roundHalfEven num (2 ^ shift * den) = significand :=
      roundHalfEven_eq (by omega) (by omega)
    rw [nearest_eq hden hlow (by omega), hround, hmagnitude]
  · rw [not_or, Nat.not_le] at hlow
    obtain ⟨hshift, hnum⟩ := hlow
    -- the magnitude is a power of two, as the next one is already too far
    have hsignificand : significand = 2 ^ 52 := by
      apply Nat.le_antisymm _ (htop.resolve_left hshift)
      apply Nat.le_of_not_lt
      intro hmore
      have hnext : (2 ^ 52 + 1) * (2 ^ shift * den) ≤ significand * (2 ^ shift * den) :=
        Nat.mul_le_mul_right _ hmore
      omega
    obtain ⟨shift, rfl⟩ := Nat.exists_eq_add_one_of_ne_zero hshift
    have hdouble : 2 ^ (shift + 1) * den = 2 * (2 ^ shift * den) := by
      rw [Nat.pow_succ, Nat.mul_comm _ 2, Nat.mul_assoc]
    rw [hsignificand, hdouble] at habove
    rw [hdouble] at hnum
    have hlast : (2 ^ 54 - 1) * (2 ^ shift * den) < 2 * num := by omega
    have hpower : num < 2 ^ 53 * (2 ^ shift * den) := by omega
    rw [nearest_below_power hden hlast hpower, hmagnitude, hsignificand]

/-! ## Quotients -/

theorem nearest_mul (num den : Nat) {factor : Nat} (h : 0 < factor) :
    nearest (factor * num) (factor * den) = nearest num den := by
  unfold nearest
  simp only [Nat.mul_div_mul_left _ _ h, Nat.mul_assoc, roundHalfEven_mul _ _ h]

/-- Rounding depends on the value of a quotient only. -/
theorem nearest_congr {num den other otherDen : Nat} (hden : 0 < den) (hotherDen : 0 < otherDen)
    (h : num * otherDen = other * den) : nearest num den = nearest other otherDen := by
  calc nearest num den = nearest (otherDen * num) (otherDen * den) :=
        (nearest_mul _ _ hotherDen).symm
    _ = nearest (den * other) (den * otherDen) := by
      rw [Nat.mul_comm otherDen num, h, Nat.mul_comm other, Nat.mul_comm otherDen]
    _ = nearest other otherDen := nearest_mul _ _ hden

theorem nearest_le {num den shift : Nat} (hden : 0 < den)
    (h : num < 2 ^ 53 * (2 ^ shift * den)) : nearest num den ≤ (shift + 2) * 2 ^ 52 := by
  induction shift with
  | zero =>
      have := roundHalfEven_le h
      rw [nearest_eq hden (.inl rfl) h]
      omega
  | succ shift ih =>
      by_cases hlow : 2 ^ 52 * (2 ^ (shift + 1) * den) ≤ num
      · have := roundHalfEven_le h
        rw [nearest_eq hden (.inr hlow) h]
        omega
      · have hdouble : 2 ^ (shift + 1) * den = 2 * (2 ^ shift * den) := by
          rw [Nat.pow_succ, Nat.mul_comm _ 2, Nat.mul_assoc]
        have hless : num < 2 ^ 53 * (2 ^ shift * den) := by omega
        exact Nat.le_trans (ih hless) (Nat.mul_le_mul_right _ (by omega))

theorem unitsPerOne_pos : 0 < unitsPerOne := by
  decide +kernel

/-- Integers of 64 bits are far from the greatest finite value. -/
theorem isFinite_ofInt {n : Int} (hlow : -(2 ^ 63) ≤ n) (hhigh : n < 2 ^ 64) :
    (ofInt n).isFinite = true := by
  obtain ⟨shift, hshift, hscale⟩ : ∃ shift, shift ≤ 1085 ∧
      2 ^ 64 * unitsPerOne ≤ 2 ^ 53 * (2 ^ shift * 1) :=
    ⟨1085, Nat.le_refl _, by decide +kernel⟩
  have hless : n.natAbs * unitsPerOne < 2 ^ 53 * (2 ^ shift * 1) :=
    Nat.lt_of_lt_of_le (Nat.mul_lt_mul_of_pos_right (by omega) unitsPerOne_pos) hscale
  have hle := nearest_le Nat.one_pos hless
  unfold isFinite ofInt ofRatio
  rw [magnitude_ofMagnitude, decide_eq_true_eq]
  unfold infinityMagnitude
  simp only [Nat.pow_eq]
  generalize nearest (n.natAbs * unitsPerOne) 1 = magnitude at hle
  omega

theorem isFinite_one : one.isFinite = true :=
  isFinite_ofInt (by decide) (by decide)

end Binary64

end BankStatement
