import BankStatement.Statement.Ofx

/-!
# Values without markup

Dates, amounts, kinds and ids are written as they are.  They consist of digits, signs, points and
letters, so nothing in them ends a line, opens or closes a tag or begins an escape.  The lemmas
follow the way in which these texts are put together, down to single digits.
-/

namespace BankStatement

/-- Line ends and markup. -/
def markup : List Char :=
  ['\r', '\n', '<', '>', '&']

/-- A character that is neither a line end nor markup. -/
def IsPlain (c : Char) : Prop :=
  c ∉ markup

instance (c : Char) : Decidable (IsPlain c) :=
  inferInstanceAs (Decidable (c ∉ markup))

theorem IsPlain.ne {c other : Char} (h : IsPlain c) (hother : other ∈ markup) : c ≠ other := by
  rintro rfl
  exact h hother

/-- A text of plain characters only. -/
def PlainText (text : List Char) : Prop :=
  ∀ c ∈ text, IsPlain c

instance (text : List Char) : Decidable (PlainText text) :=
  List.decidableBAll IsPlain text

namespace PlainText

@[simp] theorem nil : PlainText [] := by simp [PlainText]

@[simp] theorem cons {c : Char} {text : List Char} :
    PlainText (c :: text) ↔ IsPlain c ∧ PlainText text := by
  simp [PlainText]

@[simp] theorem append {first second : List Char} :
    PlainText (first ++ second) ↔ PlainText first ∧ PlainText second := by
  simp only [PlainText, List.forall_mem_append]

theorem replicate {c : Char} (h : IsPlain c) (count : Nat) :
    PlainText (List.replicate count c) := by
  intro other hother
  rw [List.eq_of_mem_replicate hother]
  exact h

theorem take {text : List Char} (h : PlainText text) (count : Nat) :
    PlainText (text.take count) :=
  fun c hc => h c (List.mem_of_mem_take hc)

end PlainText

/-! ## Digits -/

namespace Decimal

theorem isPlain_digitChar (n : Nat) : IsPlain (digitChar n) := by
  have hall : ∀ digit < 10, IsPlain (Char.ofNat ('0'.toNat + digit)) := by decide
  exact hall (n % 10) (Nat.mod_lt n (by decide))

theorem plainText_digits (n : Nat) : PlainText (digits n) := by
  fun_induction digits n with
  | case1 n _ => simp [isPlain_digitChar]
  | case2 n _ ih => simp [ih, isPlain_digitChar]

theorem plainText_paddedDigits (width n : Nat) : PlainText (paddedDigits width n) := by
  rw [paddedDigits, PlainText.append]
  exact ⟨.replicate (by decide) _, plainText_digits n⟩

theorem plainText_withPlaces (places n : Nat) : PlainText (withPlaces places n) := by
  have hpoint : IsPlain '.' := by decide
  simp [withPlaces, plainText_digits, plainText_paddedDigits, hpoint]

theorem plainText_fixed (places : Nat) (x : Binary64) : PlainText (fixed places x) := by
  have hsign : PlainText (if x.negative then ['-'] else []) := by
    cases x.negative <;> decide
  simp only [fixed]
  split
  · decide
  · split
    · exact PlainText.append.mpr ⟨hsign, by decide⟩
    · exact PlainText.append.mpr ⟨hsign, plainText_withPlaces places _⟩

end Decimal

/-! ## Dates -/

namespace Moment

theorem plainText_yearText (year : Int) : PlainText (yearText year) := by
  unfold yearText
  split
  · exact Decimal.plainText_paddedDigits 4 year.natAbs
  · refine PlainText.cons.mpr ⟨?_, Decimal.plainText_paddedDigits 4 year.natAbs⟩
    split <;> decide

theorem plainText_digitsText (m : Moment) : PlainText m.digitsText := by
  simp [digitsText, two, plainText_yearText, Decimal.plainText_paddedDigits]

theorem plainText_spacedText (m : Moment) : PlainText m.spacedText := by
  have hblank : IsPlain ' ' := by decide
  have hdash : IsPlain '-' := by decide
  have hcolon : IsPlain ':' := by decide
  simp [spacedText, dashedDate, colonedTime, two, plainText_yearText,
    Decimal.plainText_paddedDigits, hblank, hdash, hcolon]

end Moment

/-! ## Values of a document -/

namespace Ofx

theorem plainText_dateText (date : Option Moment) : PlainText (dateText date).toList := by
  cases date with
  | none => decide
  | some moment =>
      rw [dateText, String.toList_ofList]
      exact moment.plainText_digitsText

theorem plainText_amount (x : Binary64) : PlainText (amount x).toList := by
  rw [amount, amountText, String.toList_ofList]
  exact Decimal.plainText_fixed 2 _

theorem plainText_kind (kind : TransactionKind) : PlainText kind.name.toList := by
  cases kind <;> decide

theorem plainText_number (number : Nat) : PlainText (toString number).toList := by
  have hmarkup : ∀ other ∈ markup, other.isDigit = false := by simp [markup]
  intro c hc hmem
  rw [Nat.toString_eq_repr, Nat.toList_repr] at hc
  have hdigit : c.isDigit = true := Nat.isDigit_of_mem_toDigits (by decide) (by decide) hc
  rw [hmarkup c hmem] at hdigit
  cases hdigit

theorem plainText_transactionId (transaction : Transaction) (number : Nat) :
    PlainText (transactionId transaction number).toList := by
  have hdash : PlainText "-".toList := by decide
  rw [transactionId, String.toList_append, String.toList_append, String.toList_ofList,
    PlainText.append, PlainText.append]
  exact ⟨⟨(plainText_dateText _).take 8, hdash⟩, plainText_number number⟩

end Ofx

end BankStatement
