import BankStatement.Json.Printer
import BankStatement.Json.StringLiteral

/-!
# Strings read back

Printing a string escapes some of its characters one by one, and both reading and skipping undo one
escape at a time.  So each comes with a lemma for one escaped character, and a printed string is
read, and skipped, by induction on its characters.
-/

namespace BankStatement.Json

/-! ## Escaped characters -/

theorem hexValue?_hexDigit {n : Nat} (h : n < 16) : hexValue? (hexDigit n) = some n := by
  have hdigits : ∀ digit : Fin 16, hexValue? (hexDigit digit) = some digit.val := by decide
  exact hdigits ⟨n, h⟩

/-- Control characters are written by the four digits of their number. -/
theorem hexUnit_of_control {c : Char} (h : c.toNat < 0x20) (rest : List Char) :
    hexUnit ('0' :: '0' :: hexDigit (c.toNat / 16) :: hexDigit (c.toNat % 16) :: rest) =
      .ok c.toNat := by
  have hquad : hexQuad? ('0' :: '0' :: hexDigit (c.toNat / 16) :: hexDigit (c.toNat % 16) :: rest) =
      some c.toNat := by
    unfold hexQuad?
    simp only [List.take_succ_cons, List.take_zero]
    rw [hexValue?_hexDigit (by omega), hexValue?_hexDigit (by omega),
      show hexValue? '0' = some 0 by decide]
    show some _ = some _
    congr 1
    omega
  rw [hexUnit, hquad]

/-- What an escaped character is: an escape of one letter, the four digits of a control character,
or any other character as it is. -/
theorem escapeChar_cases (c : Char) :
    (∃ letter, escapeChar c = ['\\', letter] ∧ ofShortEscape? letter = some c) ∨
      (c.toNat < 0x20 ∧ escapeChar c =
        ['\\', 'u', '0', '0', hexDigit (c.toNat / 16), hexDigit (c.toNat % 16)]) ∨
      (c ≠ '"' ∧ c ≠ '\\' ∧ ¬c < ' ' ∧ escapeChar c = [c]) := by
  unfold escapeChar
  split
  case h_8 hquote hbackslash _ _ _ _ _ =>
    split
    · rename_i hcontrol
      exact .inr (.inl ⟨hcontrol, rfl⟩)
    · rename_i hcontrol
      exact .inr (.inr ⟨hquote, hbackslash, fun hlt => hcontrol hlt, rfl⟩)
  all_goals exact .inl ⟨_, rfl, by decide⟩

theorem readString_of_other {c : Char} (hquote : c ≠ '"') (hbackslash : c ≠ '\\') (hc : ¬c < ' ')
    (rest : List Char) : readString (c :: rest) = (readString rest).map (c :: ·) := by
  rw [readString]
  · exact if_neg hc
  · exact hquote
  · exact fun h => absurd h hbackslash
  · exact fun _ _ h => absurd h hbackslash

theorem skipString_of_other {c : Char} (hquote : c ≠ '"') (hbackslash : c ≠ '\\') (hc : ¬c < ' ')
    (rest : List Char) : skipString (c :: rest) = skipString rest := by
  rw [skipString]
  · exact if_neg hc
  · exact hquote
  · exact fun h => absurd h hbackslash
  · exact fun _ _ h => absurd h hbackslash

theorem readString_escapeChar (c : Char) (rest : List Char) :
    readString (escapeChar c ++ rest) = (readString rest).map (c :: ·) := by
  obtain ⟨letter, hescape, hletter⟩ | ⟨hcontrol, hescape⟩ | ⟨hquote, hbackslash, hc, hescape⟩ :=
    escapeChar_cases c
  · rw [hescape]
    show readString ('\\' :: letter :: rest) = _
    rw [readString, hletter]
  · rw [hescape]
    show readString ('\\' :: 'u' :: '0' :: '0' :: hexDigit (c.toNat / 16) ::
      hexDigit (c.toNat % 16) :: rest) = _
    have hlow : Text.isLowSurrogate c.toNat = false := by
      unfold Text.isLowSurrogate
      simp
      omega
    have hhigh : Text.isHighSurrogate c.toNat = false := by
      unfold Text.isHighSurrogate
      simp
      omega
    rw [readString, show ofShortEscape? 'u' = none by decide]
    simp only [if_true, hexUnit_of_control hcontrol, hlow, hhigh, Bool.false_eq_true, if_false,
      Char.ofNat_toNat]
    rfl
  · rw [hescape]
    exact readString_of_other hquote hbackslash hc rest

theorem skipString_escapeChar (c : Char) (rest : List Char) :
    skipString (escapeChar c ++ rest) = skipString rest := by
  obtain ⟨letter, hescape, hletter⟩ | ⟨hcontrol, hescape⟩ | ⟨hquote, hbackslash, hc, hescape⟩ :=
    escapeChar_cases c
  · rw [hescape]
    show skipString ('\\' :: letter :: rest) = _
    rw [skipString, hletter]
  · rw [hescape]
    show skipString ('\\' :: 'u' :: '0' :: '0' :: hexDigit (c.toNat / 16) ::
      hexDigit (c.toNat % 16) :: rest) = _
    rw [skipString, show ofShortEscape? 'u' = none by decide]
    simp only [if_true, hexUnit_of_control hcontrol]
    rfl
  · rw [hescape]
    exact skipString_of_other hquote hbackslash hc rest

/-! ## Printed strings -/

/-- A printed string after its opening quote gives its text. -/
theorem readString_escaped (text rest : List Char) :
    readString (text.flatMap escapeChar ++ '"' :: rest) = .ok text := by
  induction text with
  | nil =>
      show readString ('"' :: rest) = _
      rw [readString]
  | cons c text ih =>
      rw [List.flatMap_cons, List.append_assoc, readString_escapeChar, ih]
      rfl

/-- A printed string ends at its closing quote. -/
theorem skipString_escaped (text rest : List Char) :
    skipString (text.flatMap escapeChar ++ '"' :: rest) = .ok rest := by
  induction text with
  | nil =>
      show skipString ('"' :: rest) = _
      rw [skipString]
  | cons c text ih => rw [List.flatMap_cons, List.append_assoc, skipString_escapeChar, ih]

end BankStatement.Json
