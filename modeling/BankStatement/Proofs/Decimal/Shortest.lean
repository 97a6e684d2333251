import BankStatement.Decimal.Shortest
import BankStatement.Proofs.Binary64.Nearest
import BankStatement.Proofs.Decimal.Digits

/-!
# Shortest numerals read back

The numeral written for a finite value has that value again as its nearest one
(`toBinary64_shortest`).

## Strategy

A power of ten is at most the magnitude, sixteen places below it is the last grid that the search
looks at, and there the rounded quotient is off by less than one part in `2 ^ 54`
(`readsBack_roundHalfEven`).  So the search ends on some grid with a numeral that reads back, and
its trailing zeros are places of the exponent (`toBinary64_mul_pow`).

Powers of ten stand on either side of the fraction bar: for an exponent `x`, the positive ones are
`10 ^ x.toNat` and the negative ones `10 ^ (-x).toNat`, and one of the two is 1.
-/

namespace BankStatement.Decimal

open Binary64 (unitsPerOne units infinityMagnitude)

/-! ## Powers of ten above and below the bar -/

theorem ratio_eq (d : Decimal) :
    d.ratio = (d.coefficient * 10 ^ d.exponent.toNat, 10 ^ (-d.exponent).toNat) := by
  obtain ⟨coefficient, exponent⟩ := d
  cases exponent <;> simp [ratio]

theorem scaled_eq (count : Nat) (exponent : Int) :
    scaled count exponent =
      (count * 10 ^ (-exponent).toNat, unitsPerOne * 10 ^ exponent.toNat) := by
  cases exponent <;> simp [scaled]

theorem powerAtMost_iff (exponent : Int) (count : Nat) :
    powerAtMost exponent count = true ↔
      10 ^ exponent.toNat * unitsPerOne ≤ count * 10 ^ (-exponent).toNat := by
  cases exponent <;> simp [powerAtMost]

theorem powerAtMost_mono {exponent : Int} {count more : Nat} (hle : count ≤ more)
    (h : powerAtMost exponent count = true) : powerAtMost exponent more = true := by
  rw [powerAtMost_iff] at h ⊢
  exact Nat.le_trans h (Nat.mul_le_mul_right _ hle)

/-! ## The value of a numeral -/

/-- The sign of a value is set apart from rounding. -/
theorem toBinary64_eq_ofMagnitude (negative : Bool) (d : Decimal) :
    d.toBinary64 negative = .ofMagnitude negative (d.toBinary64 false).magnitude := by
  unfold toBinary64
  simp only
  split
  · unfold Binary64.zero
    rw [Binary64.magnitude_ofMagnitude, Binary64.ofMagnitude_min]
  · split
    · unfold Binary64.infinity
      rw [Binary64.magnitude_ofMagnitude, Binary64.ofMagnitude_min]
    · split
      · unfold Binary64.zero
        rw [Binary64.magnitude_ofMagnitude, Binary64.ofMagnitude_min]
      · unfold Binary64.ofRatio
        rw [Binary64.magnitude_ofMagnitude, Binary64.ofMagnitude_min]

theorem ofRatio_ratio (negative : Bool) (d : Decimal) :
    Binary64.ofRatio negative d.ratio.1 d.ratio.2 =
      .ofMagnitude negative (Binary64.nearest
        (d.coefficient * 10 ^ d.exponent.toNat * unitsPerOne) (10 ^ (-d.exponent).toNat)) := by
  rw [ratio_eq]
  rfl

/-- Zeros at the end of the coefficient are places of the exponent. -/
theorem toBinary64_mul_pow (negative : Bool) {coefficient : Nat} (exponent : Int)
    (h : 0 < coefficient) (places : Nat) :
    toBinary64 negative ⟨coefficient * 10 ^ places, exponent - places⟩ =
      toBinary64 negative ⟨coefficient, exponent⟩ := by
  have hpos : 0 < coefficient * 10 ^ places := Nat.mul_pos h (pow_ten_pos _)
  have hsize : (((digits (coefficient * 10 ^ places)).length : Nat) : Int) + (exponent - places) =
      (digits coefficient).length + exponent := by
    rw [length_digits_mul_pow h]
    omega
  have hplaces : places + (exponent - places).toNat + (-exponent).toNat =
      exponent.toNat + (-(exponent - places)).toNat := by omega
  have hvalue : coefficient * 10 ^ places * 10 ^ (exponent - places).toNat * unitsPerOne *
        10 ^ (-exponent).toNat =
      coefficient * 10 ^ exponent.toNat * unitsPerOne * 10 ^ (-(exponent - places)).toNat := by
    generalize unitsPerOne = unit
    calc coefficient * 10 ^ places * 10 ^ (exponent - places).toNat * unit *
          10 ^ (-exponent).toNat
        = coefficient * 10 ^ (places + (exponent - places).toNat + (-exponent).toNat) *
          unit := by
          rw [Nat.pow_add, Nat.pow_add]
          ac_rfl
      _ = coefficient * 10 ^ exponent.toNat * unit * 10 ^ (-(exponent - places)).toNat := by
          rw [hplaces, Nat.pow_add]
          ac_rfl
  have hnearest := Binary64.nearest_congr (pow_ten_pos _) (pow_ten_pos _) hvalue
  unfold toBinary64
  simp only [ofRatio_ratio, hsize, hnearest, if_neg (Nat.ne_of_gt h), if_neg (Nat.ne_of_gt hpos)]

/-! ## The bounds on the size of a numeral -/

theorem le_ratio_of_size (places : Nat) {d : Decimal} (hpos : 0 < d.coefficient)
    (h : (places : Int) < (digits d.coefficient).length + d.exponent) :
    10 ^ places * 10 ^ (-d.exponent).toNat ≤ d.coefficient * 10 ^ d.exponent.toNat := by
  have hlength := length_digits_pos d.coefficient
  have hplaces : (10 : Nat) ^ (places + (-d.exponent).toNat) ≤
      10 ^ ((digits d.coefficient).length - 1 + d.exponent.toNat) :=
    Nat.pow_le_pow_right (by decide) (by omega)
  rw [Nat.pow_add, Nat.pow_add] at hplaces
  exact Nat.le_trans hplaces (Nat.mul_le_mul_right _ (pow_le_of_digits hpos))

theorem ratio_lt_of_size (places : Nat) {d : Decimal}
    (h : (digits d.coefficient).length + d.exponent ≤ -(places : Int)) :
    d.coefficient * 10 ^ d.exponent.toNat * 10 ^ places < 10 ^ (-d.exponent).toNat := by
  have hplaces : (10 : Nat) ^ ((digits d.coefficient).length + d.exponent.toNat + places) ≤
      10 ^ (-d.exponent).toNat :=
    Nat.pow_le_pow_right (by decide) (by omega)
  rw [Nat.pow_add, Nat.pow_add] at hplaces
  apply Nat.lt_of_lt_of_le _ hplaces
  apply Nat.mul_lt_mul_of_pos_right _ (pow_ten_pos _)
  exact Nat.mul_lt_mul_of_pos_right (lt_pow_length_digits _) (pow_ten_pos _)

/-- Numerals from `10 ^ 310` on are past every finite value. -/
theorem units_lt_pow {magnitude : Nat} (hpos : 0 < magnitude)
    (hfinite : magnitude < infinityMagnitude) : 2 * units magnitude < 10 ^ 310 * unitsPerOne := by
  obtain ⟨top, htop, hscale⟩ : ∃ top, 2098 ≤ top ∧ 2 * 2 ^ top ≤ 10 ^ 310 * unitsPerOne :=
    ⟨2098, Nat.le_refl _, by decide +kernel⟩
  have hlog := Binary64.log2_units_lt hpos hfinite
  have hunits : units magnitude < 2 ^ ((units magnitude).log2 + 1) := Nat.lt_log2_self
  have hpow : (2 : Nat) ^ ((units magnitude).log2 + 1) ≤ 2 ^ top :=
    Nat.pow_le_pow_right (by decide) (by omega)
  exact Nat.lt_of_lt_of_le (Nat.mul_lt_mul_of_pos_left (Nat.lt_of_lt_of_le hunits hpow) (by decide))
    hscale

/-- Numerals below `10 ^ -331` are nearer to zero than to the least positive value. -/
theorem unitsPerOne_lt_pow : 2 * unitsPerOne < 10 ^ 331 := by
  decide +kernel

/-- A numeral that is close to a magnitude has it as its value: its size is within the bounds. -/
theorem toBinary64_of_close (negative : Bool) {d : Decimal} {magnitude : Nat} (hpos : 0 < magnitude)
    (hfinite : magnitude < infinityMagnitude)
    (hclose : Binary64.Close (d.coefficient * 10 ^ d.exponent.toNat * unitsPerOne)
      (10 ^ (-d.exponent).toNat) (units magnitude)) :
    d.toBinary64 negative = .ofMagnitude negative magnitude := by
  have hunits := Binary64.units_pos hpos
  have hnearest := Binary64.nearest_of_close (pow_ten_pos _) hclose
  obtain ⟨habove, hbelow⟩ := hclose
  have hcount : 0 < units magnitude * 10 ^ (-d.exponent).toNat :=
    Nat.mul_pos hunits (pow_ten_pos _)
  have hcoefficient : d.coefficient ≠ 0 := by
    intro hzero
    rw [hzero, Nat.zero_mul, Nat.zero_mul] at habove
    omega
  have hnotPast : ¬ (310 : Int) < (digits d.coefficient).length + d.exponent := by
    intro hsize
    have hvalue := le_ratio_of_size 310 (Nat.pos_of_ne_zero hcoefficient) hsize
    have hlimit := units_lt_pow hpos hfinite
    generalize (10 : Nat) ^ 310 = limit at hvalue hlimit
    have hpast : 2 * (units magnitude * 10 ^ (-d.exponent).toNat) <
        d.coefficient * 10 ^ d.exponent.toNat * unitsPerOne := by
      calc 2 * (units magnitude * 10 ^ (-d.exponent).toNat)
          = 2 * units magnitude * 10 ^ (-d.exponent).toNat := (Nat.mul_assoc ..).symm
        _ < limit * unitsPerOne * 10 ^ (-d.exponent).toNat :=
            Nat.mul_lt_mul_of_pos_right hlimit (pow_ten_pos _)
        _ = limit * 10 ^ (-d.exponent).toNat * unitsPerOne := Nat.mul_right_comm ..
        _ ≤ d.coefficient * 10 ^ d.exponent.toNat * unitsPerOne := Nat.mul_le_mul_right _ hvalue
    omega
  have hnotBefore : ¬ ((digits d.coefficient).length + d.exponent : Int) < -330 := by
    intro hsize
    have hbefore : 2 * (d.coefficient * 10 ^ d.exponent.toNat * unitsPerOne) <
        units magnitude * 10 ^ (-d.exponent).toNat := by
      calc 2 * (d.coefficient * 10 ^ d.exponent.toNat * unitsPerOne)
          = d.coefficient * 10 ^ d.exponent.toNat * (2 * unitsPerOne) := Nat.mul_left_comm ..
        _ ≤ d.coefficient * 10 ^ d.exponent.toNat * 10 ^ 331 :=
            Nat.mul_le_mul_left _ (Nat.le_of_lt unitsPerOne_lt_pow)
        _ < 10 ^ (-d.exponent).toNat := ratio_lt_of_size 331 (by omega)
        _ ≤ units magnitude * 10 ^ (-d.exponent).toNat := Nat.le_mul_of_pos_left _ hunits
    omega
  unfold toBinary64
  simp only
  rw [if_neg hcoefficient, if_neg hnotPast, if_neg hnotBefore, ofRatio_ratio, hnearest]

/-! ## The last grid -/

/-- The least number of units with a given binary exponent is at least the power of ten before the
guessed one. -/
theorem powerAtMost_guess : ∀ log < 2098,
    powerAtMost (((log : Nat) - 1074 : Int) * 30103 / 100000 - 1) (Nat.pow 2 log) = true := by
  -- all exponents in one evaluation: the bounded quantifier is decided much more slowly
  have hall : ((List.range 2098).all fun log =>
      powerAtMost (((log : Nat) - 1074 : Int) * 30103 / 100000 - 1) (Nat.pow 2 log)) = true := by
    decide +kernel
  intro log hlog
  exact List.all_eq_true.mp hall log (List.mem_range.mpr hlog)

theorem powerAtMost_leadingExponent {magnitude : Nat} (hpos : 0 < magnitude)
    (hfinite : magnitude < infinityMagnitude) :
    powerAtMost (leadingExponent (units magnitude)) (units magnitude) = true := by
  have hleast : 2 ^ (units magnitude).log2 ≤ units magnitude :=
    Nat.log2_self_le (Nat.ne_of_gt (Binary64.units_pos hpos))
  have hguess := powerAtMost_guess _ (Binary64.log2_units_lt hpos hfinite)
  unfold leadingExponent
  simp only
  split
  · exact powerAtMost_mono hleast hguess
  · next hfirst =>
    split
    · assumption
    · simpa using hfirst

/-- Places below a power of ten that is at most the count, the quotient has as many digits before
the point. -/
theorem mul_scaled_le {count : Nat} {exponent : Int} (places : Nat)
    (h : powerAtMost exponent count = true) :
    10 ^ places * (scaled count (exponent - places)).2 ≤ (scaled count (exponent - places)).1 := by
  rw [powerAtMost_iff] at h
  have hplaces : places + (exponent - places).toNat + (-exponent).toNat =
      exponent.toNat + (-(exponent - places)).toNat := by omega
  simp only [scaled_eq]
  generalize unitsPerOne = unit at h ⊢
  apply Nat.le_of_mul_le_mul_right _ (pow_ten_pos (-exponent).toNat)
  calc 10 ^ places * (unit * 10 ^ (exponent - places).toNat) * 10 ^ (-exponent).toNat
      = 10 ^ (places + (exponent - places).toNat + (-exponent).toNat) * unit := by
        rw [Nat.pow_add, Nat.pow_add]
        ac_rfl
    _ = 10 ^ exponent.toNat * unit * 10 ^ (-(exponent - places)).toNat := by
        rw [hplaces, Nat.pow_add]
        ac_rfl
    _ ≤ count * 10 ^ (-exponent).toNat * 10 ^ (-(exponent - places)).toNat :=
        Nat.mul_le_mul_right _ h
    _ = count * 10 ^ (-(exponent - places)).toNat * 10 ^ (-exponent).toNat :=
        Nat.mul_right_comm ..

/-- With seventeen digits, the rounded quotient reads back. -/
theorem readsBack_roundHalfEven {magnitude : Nat} {exponent : Int} (hpos : 0 < magnitude)
    (hfinite : magnitude < infinityMagnitude)
    (hlead : powerAtMost exponent (units magnitude) = true) :
    readsBack ⟨roundHalfEven (scaled (units magnitude) (exponent - 16)).1
      (scaled (units magnitude) (exponent - 16)).2, exponent - 16⟩ magnitude = true := by
  have hscaled : 10 ^ 16 * (scaled (units magnitude) (exponent - 16)).2 ≤
      (scaled (units magnitude) (exponent - 16)).1 := mul_scaled_le 16 hlead
  have hden : 0 < (scaled (units magnitude) (exponent - 16)).2 := by
    rw [scaled_eq]
    exact Nat.mul_pos Binary64.unitsPerOne_pos (pow_ten_pos _)
  obtain ⟨hlow, hhigh⟩ := roundHalfEven_error (scaled (units magnitude) (exponent - 16)).1 hden
  generalize hcount : roundHalfEven (scaled (units magnitude) (exponent - 16)).1
    (scaled (units magnitude) (exponent - 16)).2 = count at hlow hhigh ⊢
  simp only [scaled_eq] at hscaled hlow hhigh hden
  have hstep : count * (unitsPerOne * 10 ^ (exponent - 16).toNat) =
      count * 10 ^ (exponent - 16).toNat * unitsPerOne := by
    rw [Nat.mul_comm unitsPerOne, Nat.mul_assoc]
  rw [hstep] at hlow hhigh
  -- half a step of the grid is less than one part in `2 ^ 54`
  have hclose : Binary64.Close (count * 10 ^ (exponent - 16).toNat * unitsPerOne)
      (10 ^ (-(exponent - 16)).toNat) (units magnitude) := by
    constructor
    · omega
    · omega
  have hvalue := toBinary64_of_close false (d := ⟨count, exponent - 16⟩) hpos hfinite hclose
  unfold readsBack
  rw [hvalue, Binary64.magnitude_ofMagnitude, Nat.min_eq_left (Nat.le_of_lt hfinite), beq_iff_eq]

/-! ## The search -/

theorem readsBack_of_onGrid? {magnitude : Nat} {exponent : Int} {d : Decimal}
    (h : onGrid? magnitude exponent = some d) : readsBack d magnitude = true := by
  unfold onGrid? at h
  simp only at h
  split at h
  · next hnear => exact Option.some.inj h ▸ hnear
  · split at h
    · next hlower => exact Option.some.inj h ▸ hlower
    · split at h
      · next hupper => exact Option.some.inj h ▸ hupper
      · cases h

theorem onGrid?_of_readsBack {magnitude : Nat} {exponent : Int}
    (h : readsBack ⟨roundHalfEven (scaled (units magnitude) exponent).1
      (scaled (units magnitude) exponent).2, exponent⟩ magnitude = true) :
    onGrid? magnitude exponent ≠ none := by
  unfold onGrid?
  simp only
  rw [if_pos h]
  simp

/-- A search that comes to a grid with a numeral ends with one that reads back. -/
theorem readsBack_searchGrids {magnitude : Nat} {last : Int} (hlast : onGrid? magnitude last ≠ none)
    (before : Nat) :
    readsBack (searchGrids magnitude (last + before) (before + 1)) magnitude = true := by
  induction before with
  | zero =>
      unfold searchGrids
      split
      · next d hgrid => exact readsBack_of_onGrid? hgrid
      · next hgrid => exact absurd (by simpa using hgrid) hlast
  | succ before ih =>
      unfold searchGrids
      split
      · next d hgrid => exact readsBack_of_onGrid? hgrid
      · have hnext : last + ((before + 1 : Nat) : Int) - 1 = last + before := by omega
        rw [hnext]
        exact ih

/-- A digit fewer, and its zero a place of the exponent. -/
theorem toBinary64_dropZeros (negative : Bool) (d : Decimal) (fuel : Nat) :
    (dropZeros d fuel).toBinary64 negative = d.toBinary64 negative := by
  induction fuel generalizing d with
  | zero => rfl
  | succ fuel ih =>
      unfold dropZeros
      split
      · next hzero =>
        obtain ⟨coefficient, exponent⟩ := d
        obtain ⟨hne, hdigit⟩ : coefficient ≠ 0 ∧ coefficient % 10 = 0 := hzero
        have htimes : coefficient / 10 * 10 ^ 1 = coefficient := by omega
        have hplaces : exponent + 1 - ((1 : Nat) : Int) = exponent := by omega
        have hshift := toBinary64_mul_pow negative (exponent + 1)
          (by omega : 0 < coefficient / 10) 1
        rw [htimes, hplaces] at hshift
        rw [ih, hshift]
      · rfl

/-- The shortest numeral of a finite magnitude has it as its value. -/
theorem toBinary64_shortest (negative : Bool) {magnitude : Nat} (hpos : 0 < magnitude)
    (hfinite : magnitude < infinityMagnitude) :
    toBinary64 negative (shortest magnitude) = .ofMagnitude negative magnitude := by
  have hlead := powerAtMost_leadingExponent hpos hfinite
  have hlast := onGrid?_of_readsBack (readsBack_roundHalfEven hpos hfinite hlead)
  have hsearch := readsBack_searchGrids hlast 16
  have hstart : leadingExponent (units magnitude) - 16 + ((16 : Nat) : Int) =
      leadingExponent (units magnitude) := Int.sub_add_cancel ..
  rw [hstart] at hsearch
  have hvalue := eq_of_beq hsearch
  unfold shortest
  rw [toBinary64_dropZeros, toBinary64_eq_ofMagnitude, hvalue]

theorem coefficient_shortest_pos {magnitude : Nat} (hpos : 0 < magnitude)
    (hfinite : magnitude < infinityMagnitude) : 0 < (shortest magnitude).coefficient := by
  apply Nat.pos_of_ne_zero
  intro hzero
  have hvalue := congrArg Binary64.magnitude (toBinary64_shortest false hpos hfinite)
  unfold toBinary64 at hvalue
  simp only [if_pos hzero, Binary64.zero, Binary64.magnitude_ofMagnitude] at hvalue
  omega

end BankStatement.Decimal
