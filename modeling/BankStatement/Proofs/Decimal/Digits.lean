import Mathlib.Algebra.Group.Nat.Defs
import BankStatement.Decimal.Basic

/-!
# Decimal digits

The written digits of a natural number: they write that number (`ofDigits_digits`), the first of
them is not a zero unless it is the only one, and their number is the place of the leading digit
(`pow_le_of_digits`, `lt_pow_length_digits`).
-/

namespace BankStatement.Decimal

/-! ## Single digits -/

theorem digitChar_cases {n : Nat} (h : n < 10) :
    isDigit (digitChar n) = true ∧ digitValue (digitChar n) = n ∧ (digitChar n = '0' → n = 0) := by
  have hdigits : ∀ digit : Fin 10, isDigit (digitChar digit) = true ∧
      digitValue (digitChar digit) = digit ∧ (digitChar digit = '0' → digit.val = 0) := by decide
  exact hdigits ⟨n, h⟩

/-! ## Written numbers -/

theorem digits_of_lt {n : Nat} (h : n < 10) : digits n = [digitChar n] := by
  rw [digits, if_pos h]

theorem digits_ne_nil (n : Nat) : digits n ≠ [] := by
  rw [digits]
  split <;> simp

theorem isDigit_of_mem_digits {n : Nat} : ∀ c ∈ digits n, isDigit c = true := by
  fun_induction digits n with
  | case1 n h =>
      intro c hc
      rw [List.mem_singleton.mp hc]
      exact (digitChar_cases h).1
  | case2 n h ih =>
      intro c hc
      rcases List.mem_append.mp hc with hc | hc
      · exact ih c hc
      · rw [List.mem_singleton.mp hc]
        exact (digitChar_cases (Nat.mod_lt _ (by decide))).1

theorem isDigit_of_mem_paddedDigits {width n : Nat} :
    ∀ c ∈ paddedDigits width n, isDigit c = true := by
  intro c hc
  rcases List.mem_append.mp hc with hzero | hdigit
  · rw [List.eq_of_mem_replicate hzero]
    decide
  · exact isDigit_of_mem_digits c hdigit

/-- No number but zero is written with a leading zero. -/
theorem head?_digits {n : Nat} (h : 0 < n) : (digits n).head? ≠ some '0' := by
  fun_induction digits n with
  | case1 n hn =>
      intro hhead
      have hzero : n = 0 := (digitChar_cases hn).2.2 (Option.some.inj hhead)
      omega
  | case2 n hn ih =>
      have hfirst := ih (by omega)
      rw [List.head?_append]
      cases hhead : (digits (n / 10)).head? with
      | none => exact absurd (List.head?_eq_none_iff.mp hhead) (digits_ne_nil _)
      | some c =>
          rw [hhead] at hfirst
          exact hfirst

/-! ## Values -/

theorem foldl_digits (value : Nat) (text : List Char) :
    text.foldl (fun value c => 10 * value + digitValue c) value =
      value * 10 ^ text.length + ofDigits text := by
  induction text generalizing value with
  | nil => simp [ofDigits]
  | cons c text ih =>
      unfold ofDigits
      rw [List.foldl_cons, List.foldl_cons, ih, ih (10 * 0 + digitValue c), List.length_cons,
        Nat.pow_succ]
      rw [Nat.add_mul, Nat.add_mul, Nat.mul_comm 10 value, Nat.mul_assoc, Nat.mul_comm 10 (10 ^ _)]
      omega

/-- Digits after others: the value of those moves up by as many places. -/
theorem ofDigits_append (first second : List Char) :
    ofDigits (first ++ second) = ofDigits first * 10 ^ second.length + ofDigits second := by
  rw [ofDigits, List.foldl_append, foldl_digits]
  rfl

theorem ofDigits_zeros (count : Nat) : ofDigits (List.replicate count '0') = 0 := by
  induction count with
  | zero => rfl
  | succ count ih =>
      show List.foldl _ (10 * 0 + digitValue '0') (List.replicate count '0') = 0
      rw [foldl_digits, ih]
      simp [digitValue]

theorem ofDigits_digits (n : Nat) : ofDigits (digits n) = n := by
  fun_induction digits n with
  | case1 n h =>
      show 10 * 0 + digitValue (digitChar n) = n
      rw [(digitChar_cases h).2.1]
      omega
  | case2 n h ih =>
      rw [ofDigits_append, ih]
      show n / 10 * 10 ^ 1 + (10 * 0 + digitValue (digitChar (n % 10))) = n
      rw [(digitChar_cases (Nat.mod_lt _ (by decide))).2.1]
      omega

/-! ## The number of digits -/

theorem le_length_paddedDigits (width n : Nat) : width ≤ (paddedDigits width n).length := by
  rw [paddedDigits, List.length_append, List.length_replicate]
  omega

theorem pow_ten_pos (n : Nat) : 0 < 10 ^ n :=
  Nat.pow_pos (by decide)

theorem length_digits_pos (n : Nat) : 0 < (digits n).length :=
  List.length_pos_iff.mpr (digits_ne_nil n)

theorem lt_pow_length_digits (n : Nat) : n < 10 ^ (digits n).length := by
  fun_induction digits n with
  | case1 n h => simpa using h
  | case2 n h ih =>
      rw [List.length_append, List.length_singleton, Nat.pow_succ]
      omega

theorem pow_le_of_digits {n : Nat} (h : 0 < n) : 10 ^ ((digits n).length - 1) ≤ n := by
  fun_induction digits n with
  | case1 n hn => exact h
  | case2 n hn ih =>
      have hpos := length_digits_pos (n / 10)
      have hle := ih (by omega)
      have hpow : 10 ^ (digits (n / 10)).length = 10 ^ ((digits (n / 10)).length - 1) * 10 := by
        rw [← Nat.pow_succ]
        congr 1
        omega
      rw [List.length_append, List.length_singleton, Nat.add_sub_cancel, hpow]
      omega

/-- The number of digits, from bounds by powers of ten. -/
theorem length_digits_eq {n count : Nat} (hlow : 10 ^ count ≤ n) (hhigh : n < 10 ^ (count + 1)) :
    (digits n).length = count + 1 := by
  have hpos : 0 < n := Nat.lt_of_lt_of_le (pow_ten_pos _) hlow
  have hlength := length_digits_pos n
  apply Nat.le_antisymm
  · have := Nat.lt_of_le_of_lt (pow_le_of_digits hpos) hhigh
    have := (Nat.pow_lt_pow_iff_right (by decide : 1 < 10)).mp this
    omega
  · have := Nat.lt_of_le_of_lt hlow (lt_pow_length_digits n)
    have := (Nat.pow_lt_pow_iff_right (by decide : 1 < 10)).mp this
    omega

/-- Ten times as much has one more digit. -/
theorem length_digits_mul_pow {n : Nat} (h : 0 < n) (places : Nat) :
    (digits (n * 10 ^ places)).length = (digits n).length + places := by
  have hlength := length_digits_pos n
  have hcount : (digits n).length + places = ((digits n).length - 1 + places) + 1 := by omega
  rw [hcount]
  apply length_digits_eq
  · rw [Nat.pow_add]
    exact Nat.mul_le_mul_right _ (pow_le_of_digits h)
  · rw [← hcount, Nat.pow_add]
    exact Nat.mul_lt_mul_of_pos_right (lt_pow_length_digits n) (pow_ten_pos _)

/-! ## Digits at the start of a text -/

/-- What may follow a run of digits so that it ends there. -/
def EndsDigits (rest : List Char) : Prop :=
  ∀ c ∈ rest.head?, isDigit c = false

theorem endsDigits_cons {c : Char} (h : isDigit c = false) (rest : List Char) :
    EndsDigits (c :: rest) := by
  intro first hfirst
  cases hfirst
  exact h

theorem takeWhile_digits {run rest : List Char} (hrun : ∀ c ∈ run, isDigit c = true)
    (hrest : EndsDigits rest) :
    (run ++ rest).takeWhile isDigit = run ∧ (run ++ rest).dropWhile isDigit = rest := by
  rw [List.takeWhile_append_of_pos hrun, List.dropWhile_append_of_pos hrun]
  cases rest with
  | nil => simp
  | cons c rest =>
      have hc : isDigit c = false := hrest c (by simp)
      rw [List.takeWhile_cons_of_neg (by simp [hc]), List.dropWhile_cons_of_neg (by simp [hc])]
      simp

end BankStatement.Decimal
