import Mathlib.Algebra.Ring.Int.Defs
import Mathlib.Data.String.Basic
import BankStatement.Proofs.Decimal.Digits

/-!
# Numbers in a fixed number of digits

A text of a fixed width writes a number with zeros on its left (`Decimal.HasWidth`).  Texts of the
same width are in the order of the numbers that they write (`Decimal.HasWidth.le`): the first digits
in which they differ decide, since what follows them is less than one of their place
(`Decimal.ofDigits_lt_pow`).
-/

namespace BankStatement.Decimal

/-! ## Digits as characters -/

theorem isDigit_iff {c : Char} : isDigit c = true ↔ 48 ≤ c.toNat ∧ c.toNat ≤ 57 := by
  unfold isDigit
  rw [Bool.and_eq_true, decide_eq_true_eq, decide_eq_true_eq]
  exact Iff.rfl

theorem ascii_paddedDigits (width n : Nat) : ∀ c ∈ paddedDigits width n, c.toNat < 0x80 := by
  intro c hc
  have hdigit := isDigit_iff.mp (isDigit_of_mem_paddedDigits c hc)
  omega

theorem digitValue_lt {c : Char} (h : isDigit c = true) : digitValue c < 10 := by
  have hbounds := isDigit_iff.mp h
  show c.toNat - 48 < 10
  omega

/-- Digits are ordered by their values. -/
theorem lt_iff_digitValue_lt {c d : Char} (hc : isDigit c = true) (hd : isDigit d = true) :
    c < d ↔ digitValue c < digitValue d := by
  have hbounds := isDigit_iff.mp hc
  have hbounds' := isDigit_iff.mp hd
  show c.toNat < d.toNat ↔ c.toNat - 48 < d.toNat - 48
  omega

/-! ## The order of runs of digits -/

theorem ofDigits_cons (c : Char) (rest : List Char) :
    ofDigits (c :: rest) = digitValue c * 10 ^ rest.length + ofDigits rest := by
  show List.foldl _ (10 * 0 + digitValue c) rest = _
  rw [foldl_digits, Nat.mul_zero, Nat.zero_add]

theorem ofDigits_lt_pow {text : List Char} (h : ∀ c ∈ text, isDigit c = true) :
    ofDigits text < 10 ^ text.length := by
  induction text with
  | nil => decide
  | cons c rest ih =>
      obtain ⟨hc, hrest⟩ := List.forall_mem_cons.mp h
      have hvalue := digitValue_lt hc
      have hless := ih hrest
      calc ofDigits (c :: rest)
          = digitValue c * 10 ^ rest.length + ofDigits rest := ofDigits_cons c rest
        _ < digitValue c * 10 ^ rest.length + 10 ^ rest.length := Nat.add_lt_add_left hless _
        _ = (digitValue c + 1) * 10 ^ rest.length := by rw [Nat.succ_mul]
        _ ≤ 10 * 10 ^ rest.length := Nat.mul_le_mul_right _ hvalue
        _ = 10 ^ (c :: rest).length := by rw [List.length_cons, Nat.pow_succ, Nat.mul_comm]

/-- Numbers in as many digits are ordered as texts the way they are ordered as numbers. -/
theorem le_of_ofDigits_le {first second : List Char} (hlength : first.length = second.length)
    (hfirst : ∀ c ∈ first, isDigit c = true) (hsecond : ∀ c ∈ second, isDigit c = true)
    (h : ofDigits first ≤ ofDigits second) : first ≤ second := by
  induction first generalizing second with
  | nil => exact not_lt.mp (List.not_lt_nil second)
  | cons c first ih =>
      cases second with
      | nil => cases hlength
      | cons d second =>
          obtain ⟨hc, hdigits⟩ := List.forall_mem_cons.mp hfirst
          obtain ⟨hd, hdigits'⟩ := List.forall_mem_cons.mp hsecond
          have hrests : first.length = second.length := Nat.succ.inj hlength
          rw [ofDigits_cons, ofDigits_cons, hrests] at h
          apply not_lt.mp
          intro hgreater
          rw [List.cons_lt_cons_iff, lt_iff_digitValue_lt hd hc] at hgreater
          rcases hgreater with hmore | ⟨rfl, hmore⟩
          · -- The first digits decide, since what follows them is less than one of their place.
            have hrest := ofDigits_lt_pow hdigits'
            have hstep := Nat.mul_le_mul_right (10 ^ second.length) hmore
            rw [Nat.succ_mul] at hstep
            omega
          · have hle := ih hrests hdigits hdigits' (Nat.le_of_add_le_add_left h)
            exact not_lt.mpr hle hmore

/-! ## Digits of a fixed width -/

/-- Whether a text is a number in a fixed number of digits. -/
def HasWidth (width : Nat) (n : Int) (text : List Char) : Prop :=
  text.length = width ∧ (∀ c ∈ text, isDigit c = true) ∧ (ofDigits text : Int) = n

theorem ofDigits_paddedDigits (width n : Nat) : ofDigits (paddedDigits width n) = n := by
  rw [paddedDigits, ofDigits_append, ofDigits_zeros, ofDigits_digits, Nat.zero_mul, Nat.zero_add]

/-- Padded digits have the width that they are padded to, unless there are too many of them. -/
theorem hasWidth_paddedDigits {width n : Nat} (hwidth : 0 < width) (h : n < 10 ^ width) :
    HasWidth width n (paddedDigits width n) := by
  have hlength : (digits n).length ≤ width := by
    rcases Nat.eq_zero_or_pos n with rfl | hpos
    · rw [digits_of_lt (by decide)]
      exact hwidth
    · refine Nat.not_lt.mp fun hlong => Nat.lt_irrefl n ?_
      calc n < 10 ^ width := h
        _ ≤ 10 ^ ((digits n).length - 1) := Nat.pow_le_pow_right (by decide) (by omega)
        _ ≤ n := pow_le_of_digits hpos
  refine ⟨?_, isDigit_of_mem_paddedDigits, ?_⟩
  · rw [paddedDigits, List.length_append, List.length_replicate]
    omega
  · rw [ofDigits_paddedDigits]

namespace HasWidth

variable {width : Nat} {m n : Int} {text first second : List Char}

/-- A text of this kind begins with a digit. -/
theorem head (h : HasWidth width n text) (hwidth : 0 < width) :
    ∃ c rest, text = c :: rest ∧ isDigit c = true := by
  cases text with
  | nil =>
      have hlength : 0 = width := h.1
      omega
  | cons c rest => exact ⟨c, rest, rfl, h.2.1 c List.mem_cons_self⟩

/-- Digits after others move those up by as many places. -/
theorem append {width' : Nat} (hfirst : HasWidth width m first)
    (hsecond : HasWidth width' n second) :
    HasWidth (width + width') (m * 10 ^ width' + n) (first ++ second) := by
  obtain ⟨hlength, hdigits, rfl⟩ := hfirst
  obtain ⟨rfl, hdigits', rfl⟩ := hsecond
  refine ⟨by rw [List.length_append, hlength], ?_, ?_⟩
  · exact List.forall_mem_append.mpr ⟨hdigits, hdigits'⟩
  · rw [ofDigits_append]
    simp

theorem le (hfirst : HasWidth width m first) (hsecond : HasWidth width n second) (h : m ≤ n) :
    first ≤ second := by
  obtain ⟨hlength, hdigits, rfl⟩ := hfirst
  obtain ⟨hlength', hdigits', rfl⟩ := hsecond
  exact le_of_ofDigits_le (hlength.trans hlength'.symm) hdigits hdigits' (Int.ofNat_le.mp h)

end HasWidth

end BankStatement.Decimal
