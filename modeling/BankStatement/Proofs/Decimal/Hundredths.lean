import BankStatement.Decimal.Layout
import BankStatement.Proofs.Decimal.Digits
import Mathlib.Data.List.TakeWhile

/-!
# Numbers with two places

A reader for the numbers that statements write: an optional `-`, at least one digit, a point and two
digits.  It gives the number of hundredths exactly, so that what a statement says can be added up.
What the reader takes is spelled out by `HasTwoPlaces` (`isSome_hundredths?`), and it reads back the
hundredths that `withPlaces` writes (`hundredths?_withPlaces`).
-/

namespace BankStatement.Decimal

/-- The hundredths that a text without a sign writes. -/
def unsignedHundredths? (text : List Char) : Option Nat :=
  match text.dropWhile isDigit with
  | ['.', tens, ones] =>
      if text.takeWhile isDigit ≠ [] ∧ isDigit tens = true ∧ isDigit ones = true then
        some (ofDigits (text.takeWhile isDigit ++ [tens, ones]))
      else none
  | _ => none

/-- The hundredths that a text writes. -/
def hundredths? : List Char → Option Int
  | '-' :: rest => (unsignedHundredths? rest).map fun count : Nat => -(count : Int)
  | text => (unsignedHundredths? text).map fun count : Nat => (count : Int)

/-- A text of an optional minus, one or more digits, a point and two digits. -/
def HasTwoPlaces (text : List Char) : Prop :=
  ∃ sign whole tens ones, (sign = [] ∨ sign = ['-']) ∧ whole ≠ [] ∧
    (∀ c ∈ whole, isDigit c = true) ∧ isDigit tens = true ∧ isDigit ones = true ∧
    text = sign ++ (whole ++ ['.', tens, ones])

/-! ## What is read -/

theorem unsignedHundredths?_append {whole : List Char} {tens ones : Char} (hwhole : whole ≠ [])
    (hdigits : ∀ c ∈ whole, isDigit c = true) (htens : isDigit tens = true)
    (hones : isDigit ones = true) :
    unsignedHundredths? (whole ++ ['.', tens, ones]) = some (ofDigits (whole ++ [tens, ones])) := by
  have hpoint : EndsDigits ['.', tens, ones] := endsDigits_cons (by decide) _
  obtain ⟨htake, hdrop⟩ := takeWhile_digits hdigits hpoint
  unfold unsignedHundredths?
  simp only [htake, hdrop]
  exact if_pos ⟨hwhole, htens, hones⟩

/-- A text that begins with a digit has no sign. -/
theorem hundredths?_of_head {text : List Char} {c : Char} (hhead : text.head? = some c)
    (hc : isDigit c = true) :
    hundredths? text = (unsignedHundredths? text).map fun count : Nat => (count : Int) := by
  have hne : c ≠ '-' := by
    rintro rfl
    cases hc
  cases text with
  | nil => cases hhead
  | cons first rest =>
      obtain rfl : first = c := Option.some.inj hhead
      unfold hundredths?
      split
      · next heq => exact absurd (List.cons.inj heq).1 hne
      · rfl

theorem unsignedHundredths?_eq_some {text : List Char} {count : Nat}
    (h : unsignedHundredths? text = some count) :
    ∃ whole tens ones, whole ≠ [] ∧ (∀ c ∈ whole, isDigit c = true) ∧ isDigit tens = true ∧
      isDigit ones = true ∧ text = whole ++ ['.', tens, ones] := by
  unfold unsignedHundredths? at h
  split at h
  · next tens ones hrest =>
    split at h
    · next hall =>
      obtain ⟨hwhole, htens, hones⟩ := hall
      refine ⟨text.takeWhile isDigit, tens, ones, hwhole, ?_, htens, hones, ?_⟩
      · intro c hc
        exact List.mem_takeWhile_imp hc
      · rw [← hrest, List.takeWhile_append_dropWhile]
    · cases h
  · cases h

/-- Just the texts of that shape are read. -/
theorem isSome_hundredths? (text : List Char) :
    (hundredths? text).isSome = true ↔ HasTwoPlaces text := by
  constructor
  · intro h
    unfold hundredths? at h
    split at h
    · next rest =>
      rw [Option.isSome_map, Option.isSome_iff_exists] at h
      obtain ⟨count, hcount⟩ := h
      obtain ⟨whole, tens, ones, hwhole, hdigits, htens, hones, rfl⟩ :=
        unsignedHundredths?_eq_some hcount
      exact ⟨['-'], whole, tens, ones, .inr rfl, hwhole, hdigits, htens, hones, rfl⟩
    · rw [Option.isSome_map, Option.isSome_iff_exists] at h
      obtain ⟨count, hcount⟩ := h
      obtain ⟨whole, tens, ones, hwhole, hdigits, htens, hones, rfl⟩ :=
        unsignedHundredths?_eq_some hcount
      exact ⟨[], whole, tens, ones, .inl rfl, hwhole, hdigits, htens, hones, rfl⟩
  · rintro ⟨sign, whole, tens, ones, hsign, hwhole, hdigits, htens, hones, rfl⟩
    have hread := unsignedHundredths?_append hwhole hdigits htens hones
    rcases hsign with rfl | rfl
    · obtain ⟨c, others, rfl⟩ := List.exists_cons_of_ne_nil hwhole
      rw [List.nil_append, hundredths?_of_head (c := c) rfl (hdigits c (List.mem_cons_self ..)),
        hread]
      rfl
    · show ((unsignedHundredths? (whole ++ ['.', tens, ones])).map _).isSome = true
      rw [hread]
      rfl

/-! ## What is written -/

theorem paddedDigits_two {n : Nat} (h : n < 100) :
    paddedDigits 2 n = [digitChar (n / 10), digitChar (n % 10)] := by
  unfold paddedDigits
  by_cases hsmall : n < 10
  · have hzero : n / 10 = 0 := by omega
    rw [digits_of_lt hsmall, hzero, Nat.mod_eq_of_lt hsmall]
    rfl
  · have hdigits : digits n = [digitChar (n / 10), digitChar (n % 10)] := by
      rw [digits, if_neg hsmall, digits_of_lt (by omega)]
      rfl
    rw [hdigits]
    rfl

/-- Hundredths are read as they were written. -/
theorem hundredths?_withPlaces (n : Nat) :
    hundredths? (withPlaces 2 n) = some (n : Int) ∧
      hundredths? ('-' :: withPlaces 2 n) = some (-(n : Int)) := by
  have hwhole := isDigit_of_mem_digits (n := n / 100)
  have htens := digitChar_cases (n := n % 100 / 10) (by omega)
  have hones := digitChar_cases (n := n % 100 % 10) (by omega)
  have htext : withPlaces 2 n =
      digits (n / 100) ++ ['.', digitChar (n % 100 / 10), digitChar (n % 100 % 10)] := by
    unfold withPlaces
    rw [← paddedDigits_two (Nat.mod_lt n (by decide))]
  have hvalue : ofDigits (digits (n / 100) ++
      [digitChar (n % 100 / 10), digitChar (n % 100 % 10)]) = n := by
    rw [ofDigits_append, ofDigits_digits]
    show n / 100 * 10 ^ 2 + (10 * (10 * 0 + digitValue (digitChar (n % 100 / 10))) +
      digitValue (digitChar (n % 100 % 10))) = n
    rw [htens.2.1, hones.2.1]
    omega
  have hread := unsignedHundredths?_append (digits_ne_nil _) hwhole htens.1 hones.1
  rw [hvalue, ← htext] at hread
  constructor
  · obtain ⟨c, others, hdigits⟩ := List.exists_cons_of_ne_nil (digits_ne_nil (n / 100))
    have hhead : (withPlaces 2 n).head? = some c := by
      rw [htext, hdigits]
      rfl
    rw [hundredths?_of_head hhead (hwhole c (hdigits ▸ List.mem_cons_self ..)), hread]
    rfl
  · show (unsignedHundredths? (withPlaces 2 n)).map _ = _
    rw [hread]
    rfl

end BankStatement.Decimal
