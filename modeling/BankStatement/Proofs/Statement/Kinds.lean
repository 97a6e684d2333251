import BankStatement.Proofs.Statement.Cents
import BankStatement.Proofs.Statement.Values

/-!
# Kinds of transactions

The kind of a transaction is the sign of its amount once that is rounded to cents, and the text of
the amount is made from the same value.  They are found in different ways, though: the kind by a
comparison with zero, to which the sign bit of a zero does not matter, and the text from the sign
bit and the digits, which may all be zeros.

Neither makes a difference.  What rounding to cents gives is never the negative zero
(`negative_roundCents_of_isZero`), and when it is below zero some digit is left
(`printedCents_roundCents_pos`).  So debits are the transactions whose amount is written with a
minus, and `-0.00` is never written (`Ofx.kind_of_transactionLines`).
-/

namespace BankStatement

open Binary64

namespace Decimal

theorem head?_withPlaces_ne (places n : Nat) : (withPlaces places n).head? ≠ some '-' := by
  obtain ⟨c, others, hdigits⟩ := List.exists_cons_of_ne_nil (digits_ne_nil (n / Nat.pow 10 places))
  have hdigit : isDigit c = true :=
    isDigit_of_mem_digits c (hdigits ▸ List.mem_cons_self (a := c) (l := others))
  unfold withPlaces
  rw [hdigits, List.cons_append, List.head?_cons]
  rintro ⟨rfl⟩
  cases hdigit

/-- A text begins with a minus just when the sign bit is set, but for what is not a number. -/
theorem head?_fixed (places : Nat) (x : Binary64) :
    (fixed places x).head? = some '-' ↔ x.negative = true ∧ x.isNaN = false := by
  unfold fixed
  cases x.isNaN <;> cases x.isInfinite <;> cases x.negative <;> simp [head?_withPlaces_ne]

end Decimal

variable {x : Binary64}

theorem negative_roundCents_of_isZero (h : (roundCents x).isZero = true) :
    (roundCents x).negative = false := by
  unfold roundCents at h ⊢
  simp only at h ⊢
  split at h
  · next hzero =>
    rw [if_pos hzero]
    decide
  · next hzero => exact absurd h hzero

theorem belowZero_roundCents (x : Binary64) :
    (roundCents x).belowZero = true ↔
      (roundCents x).negative = true ∧ (roundCents x).isNaN = false := by
  have hzero : (roundCents x).negative = true → (roundCents x).isZero = false := by
    intro hnegative
    apply Bool.of_not_eq_true
    intro h
    rw [negative_roundCents_of_isZero h] at hnegative
    cases hnegative
  unfold belowZero
  simp only [Bool.and_eq_true, Bool.not_eq_true']
  constructor
  · rintro ⟨⟨hnegative, -⟩, hnumber⟩
    exact ⟨hnegative, hnumber⟩
  · rintro ⟨hnegative, hnumber⟩
    exact ⟨⟨hnegative, hzero hnegative⟩, hnumber⟩

namespace Ofx

/-- The sign that an amount is written with says which kind it is. -/
theorem name_ofAmount (x : Binary64) :
    (TransactionKind.ofAmount x).name =
      if (amount x).toList.head? = some '-' then "DEBIT" else "CREDIT" := by
  have hsign : (amount x).toList.head? = some '-' ↔ (roundCents x).belowZero = true := by
    rw [amount, amountText, String.toList_ofList, Decimal.head?_fixed, belowZero_roundCents]
  unfold TransactionKind.ofAmount
  by_cases h : (roundCents x).belowZero = true
  · rw [if_pos h, if_pos (hsign.mpr h)]
    rfl
  · rw [if_neg h, if_neg (mt hsign.mp h)]
    rfl

/-- A text with a minus has a digit other than zero: an amount without cents has lost its sign. -/
theorem amount_ne_negativeZero (x : Binary64) : amount x ≠ "-0.00" := by
  intro htext
  have hfixed : Decimal.fixed 2 (roundCents x) = "-0.00".toList := by
    rw [← htext, amount, amountText, String.toList_ofList]
  by_cases h : (x * .ofInt 100).isFinite = true
  · have hnegative : (roundCents x).negative = true :=
      ((Decimal.head?_fixed 2 (roundCents x)).mp (by rw [hfixed]; decide)).1
    have hread := Decimal.hundredths?_fixed (isFinite_roundCents h)
    have hzero : Decimal.hundredths? "-0.00".toList = some 0 := by decide
    rw [hfixed, hzero, if_pos hnegative, Option.some_inj] at hread
    rw [negative_roundCents h, Bool.and_eq_true, decide_eq_true_eq] at hnegative
    have hpositive := printedCents_roundCents_pos h hnegative.2
    omega
  · rw [Bool.not_eq_true] at h
    rcases roundCents_of_not_isFinite h with hnan | ⟨negative, hinfinity⟩
    · rw [hnan] at hfixed
      revert hfixed
      decide
    · rw [hinfinity] at hfixed
      revert hfixed
      cases negative <;> decide

/-- **Kind and amount agree in sign.**  A transaction is written with one kind and one amount,
whatever its amount is.  The kind is `DEBIT` when the text of the amount begins with a minus and
`CREDIT` when it does not, and the text is never `-0.00`. -/
theorem kind_of_transactionLines (transaction : Transaction) (number : Nat) :
    ∃ kind written,
      valuesOf "TRNTYPE" (transactionLines transaction number) = [kind] ∧
        valuesOf "TRNAMT" (transactionLines transaction number) = [written] ∧
        kind = (if written.toList.head? = some '-' then "DEBIT" else "CREDIT") ∧
        written ≠ "-0.00" :=
  ⟨transaction.kind.name, amount transaction.amount, valuesOf_kind transaction number,
    valuesOf_amount transaction number, name_ofAmount transaction.amount,
    amount_ne_negativeZero transaction.amount⟩

end Ofx

end BankStatement
