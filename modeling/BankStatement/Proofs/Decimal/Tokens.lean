import BankStatement.Decimal.Token
import BankStatement.Proofs.Decimal.Digits
import Mathlib.Data.List.Basic
import Mathlib.Data.List.TakeWhile

/-!
# The language of number tokens

Which texts are number tokens is said here without reading them (`Decimal.IsToken`): an optional
sign, and then one of the three names or a numeral, which is digits with at most one decimal
separator and an optional exponent.  Just these texts are read, as long as the point is the only
separator (`isSome_readPointed?`) and also when a comma may stand for it (`isSome_readToken?`).

## Strategy

The first half follows the reader.  Each part of a token ends where the next one begins: a sign
before a character that is none, digits before one that is no digit.

The second half is about commas.  A token has one separator at most, and any other could stand in
its place (`IsToken.split`).  So a text is a token just when it is one with its first comma turned
into a point (`isToken_commaAsPoint_iff`): a second comma would be left as it is, and with a point
besides there would be two.
-/

namespace BankStatement.Decimal

/-! ## Tokens and their parts -/

/-- A sign, which may be missing. -/
def IsSign (text : List Char) : Prop :=
  text = [] ∨ text = ['-'] ∨ text = ['+']

/-- One digit or more. -/
def IsDigits (text : List Char) : Prop :=
  text ≠ [] ∧ ∀ c ∈ text, isDigit c = true

/-- The mark with which an exponent begins. -/
def IsMark (c : Char) : Prop :=
  c = 'e' ∨ c = 'E'

/-- An exponent, which may be missing: a mark, a sign and digits. -/
def IsExponent (text : List Char) : Prop :=
  text = [] ∨ ∃ mark sign digits, IsMark mark ∧ IsSign sign ∧ IsDigits digits ∧
    text = mark :: (sign ++ digits)

/-- Digits with at most one separator, which may also be the first or the last character. -/
def IsMantissa (separators text : List Char) : Prop :=
  IsDigits text ∨ ∃ whole fraction, ∃ separator ∈ separators, IsDigits (whole ++ fraction) ∧
    text = whole ++ separator :: fraction

/-- One of the names that tokens may be, in any letter case. -/
def IsName (text : List Char) : Prop :=
  Text.lowered text ∈ ["inf".toList, "infinity".toList, "nan".toList]

/-- Digits with at most one separator, and an exponent. -/
def IsNumeral (separators text : List Char) : Prop :=
  ∃ mantissa exponent, IsMantissa separators mantissa ∧ IsExponent exponent ∧
    text = mantissa ++ exponent

/-- A sign with a name or a numeral after it. -/
def IsToken (separators text : List Char) : Prop :=
  ∃ sign body, IsSign sign ∧ (IsName body ∨ IsNumeral separators body) ∧ text = sign ++ body

/-! ## Where parts end -/

/-- What does not begin with a sign. -/
def Unsigned (text : List Char) : Prop :=
  ∀ c ∈ text.head?, c ≠ '-' ∧ c ≠ '+'

theorem splitSign_append {sign body : List Char} (hsign : IsSign sign) (hbody : Unsigned body) :
    (splitSign (sign ++ body)).2 = body := by
  rcases hsign with rfl | rfl | rfl
  · cases body with
    | nil => rfl
    | cons c rest =>
        obtain ⟨hminus, hplus⟩ := hbody c rfl
        unfold splitSign
        split
        · next heq => exact absurd (List.cons.inj heq).1 hminus
        · next heq => exact absurd (List.cons.inj heq).1 hplus
        · rfl
  · rfl
  · rfl

theorem exists_sign (text : List Char) :
    ∃ sign, IsSign sign ∧ text = sign ++ (splitSign text).2 := by
  unfold splitSign
  split
  · exact ⟨['-'], .inr (.inl rfl), rfl⟩
  · exact ⟨['+'], .inr (.inr rfl), rfl⟩
  · exact ⟨[], .inl rfl, rfl⟩

theorem ne_sign_of_isDigit {c : Char} (h : isDigit c = true) : c ≠ '-' ∧ c ≠ '+' := by
  constructor
  · rintro rfl
    cases h
  · rintro rfl
    cases h

theorem IsDigits.unsigned {text : List Char} (h : IsDigits text) : Unsigned text :=
  fun c hc => ne_sign_of_isDigit (h.2 c (List.mem_of_mem_head? hc))

theorem IsName.unsigned {text : List Char} (h : IsName text) : Unsigned text := by
  cases text with
  | nil => exact fun c hc => by cases hc
  | cons c rest =>
      intro first hfirst
      obtain rfl : c = first := Option.some.inj hfirst
      constructor
      · rintro rfl
        simp [IsName, Text.lowered, Text.lowerAscii] at h
      · rintro rfl
        simp [IsName, Text.lowered, Text.lowerAscii] at h

theorem IsExponent.endsDigits {text : List Char} (h : IsExponent text) : EndsDigits text := by
  rcases h with rfl | ⟨mark, sign, digits, hmark, _, _, rfl⟩
  · exact fun c hc => by cases hc
  · rcases hmark with rfl | rfl <;> exact endsDigits_cons (by decide) _

/-! ## What is read when the point is the only separator -/

theorem isSome_exponentPart?_cons (c : Char) (rest : List Char) :
    (exponentPart? (c :: rest)).isSome = true ↔ IsMark c ∧ IsDigits (splitSign rest).2 := by
  have hall : (splitSign rest).2.all isDigit = true ↔ ∀ c ∈ (splitSign rest).2, isDigit c = true :=
    List.all_eq_true
  simp only [exponentPart?, IsMark, IsDigits, ← hall]
  by_cases hmark : c = 'e' ∨ c = 'E'
  · by_cases hbody : (splitSign rest).2 ≠ [] ∧ (splitSign rest).2.all isDigit = true
    · rw [if_pos hmark, if_pos hbody]
      exact iff_of_true rfl ⟨hmark, hbody⟩
    · rw [if_pos hmark, if_neg hbody]
      exact iff_of_false Bool.false_ne_true fun h => hbody h.2
  · rw [if_neg hmark]
    exact iff_of_false Bool.false_ne_true fun h => hmark h.1

theorem isSome_exponentPart? (text : List Char) :
    (exponentPart? text).isSome = true ↔ IsExponent text := by
  cases text with
  | nil => exact iff_of_true rfl (.inl rfl)
  | cons c rest =>
      rw [isSome_exponentPart?_cons]
      constructor
      · rintro ⟨hmark, hdigits⟩
        obtain ⟨sign, hsign, hrest⟩ := exists_sign rest
        exact .inr ⟨c, sign, _, hmark, hsign, hdigits, congrArg (c :: ·) hrest⟩
      · rintro (hnil | ⟨mark, sign, digits, hmark, hsign, hdigits, htext⟩)
        · cases hnil
        · obtain ⟨rfl, rfl⟩ := List.cons.inj htext
          rw [splitSign_append hsign hdigits.unsigned]
          exact ⟨hmark, hdigits⟩

/-- The numeral of digits, a point and more digits. -/
theorem numeral?_point {whole fraction exponent : List Char}
    (hdigits : IsDigits (whole ++ fraction)) (hexponent : IsExponent exponent) :
    (numeral? (whole ++ '.' :: (fraction ++ exponent))).isSome = true := by
  obtain ⟨hne, hall⟩ := hdigits
  obtain ⟨hwhole, hfraction⟩ := List.forall_mem_append.mp hall
  have hpoint : EndsDigits ('.' :: (fraction ++ exponent)) := endsDigits_cons (by decide) _
  obtain ⟨htake, hdrop⟩ := takeWhile_digits hwhole hpoint
  obtain ⟨htakeMore, hdropMore⟩ := takeWhile_digits hfraction hexponent.endsDigits
  have hsome : ¬ (whole = [] ∧ fraction = []) := fun h => hne (List.append_eq_nil_iff.mpr h)
  unfold numeral?
  simp only [htake, hdrop, htakeMore, hdropMore]
  rw [if_neg hsome, Option.isSome_map]
  exact (isSome_exponentPart? exponent).mpr hexponent

/-- The numeral of digits alone. -/
theorem numeral?_digits {whole exponent : List Char} (hdigits : IsDigits whole)
    (hexponent : IsExponent exponent) : (numeral? (whole ++ exponent)).isSome = true := by
  obtain ⟨htake, hdrop⟩ := takeWhile_digits hdigits.2 hexponent.endsDigits
  have hsome : ¬ (whole = [] ∧ ([] : List Char) = []) := fun h => hdigits.1 h.1
  have hread : (exponentPart? exponent).isSome = true :=
    (isSome_exponentPart? exponent).mpr hexponent
  unfold numeral?
  simp only [htake, hdrop]
  split
  · next more =>
    rcases hexponent with hnil | ⟨mark, _, _, hmark, _, _, htext⟩
    · cases hnil
    · rcases hmark with rfl | rfl <;> cases htext
  · rw [if_neg hsome, Option.isSome_map]
    exact hread

theorem isSome_numeral? (text : List Char) :
    (numeral? text).isSome = true ↔ IsNumeral ['.'] text := by
  constructor
  · intro h
    have htext : text = text.takeWhile isDigit ++ text.dropWhile isDigit :=
      List.takeWhile_append_dropWhile.symm
    have hwhole : ∀ c ∈ text.takeWhile isDigit, isDigit c = true :=
      fun c hc => List.mem_takeWhile_imp hc
    unfold numeral? at h
    generalize text.takeWhile isDigit = whole at h htext hwhole
    generalize text.dropWhile isDigit = after at h htext
    subst htext
    dsimp only at h
    split at h
    · next more =>
      have hmore : more = more.takeWhile isDigit ++ more.dropWhile isDigit :=
        List.takeWhile_append_dropWhile.symm
      have hfraction : ∀ c ∈ more.takeWhile isDigit, isDigit c = true :=
        fun c hc => List.mem_takeWhile_imp hc
      split at h
      · cases h
      · next hsome =>
        rw [Option.isSome_map, isSome_exponentPart?] at h
        have hdigits : IsDigits (whole ++ more.takeWhile isDigit) :=
          ⟨fun hnil => hsome (List.append_eq_nil_iff.mp hnil),
            List.forall_mem_append.mpr ⟨hwhole, hfraction⟩⟩
        refine ⟨_, _, .inr ⟨whole, _, '.', List.mem_singleton.mpr rfl, hdigits, rfl⟩, h, ?_⟩
        rw [List.append_assoc, List.cons_append, ← hmore]
    · split at h
      · cases h
      · next hsome =>
        rw [Option.isSome_map, isSome_exponentPart?] at h
        exact ⟨whole, after, .inl ⟨fun hnil => hsome ⟨hnil, rfl⟩, hwhole⟩, h, rfl⟩
  · rintro ⟨mantissa, exponent, hmantissa, hexponent, rfl⟩
    rcases hmantissa with hdigits | ⟨whole, fraction, separator, hpoint, hdigits, rfl⟩
    · exact numeral?_digits hdigits hexponent
    · obtain rfl := List.mem_singleton.mp hpoint
      rw [List.append_assoc, List.cons_append]
      exact numeral?_point hdigits hexponent

theorem IsMantissa.forall_mem {separators text : List Char} (h : IsMantissa separators text) :
    ∀ c ∈ text, isDigit c = true ∨ c ∈ separators := by
  rcases h with hdigits | ⟨whole, fraction, separator, hseparator, hdigits, rfl⟩
  · exact fun c hc => .inl (hdigits.2 c hc)
  · obtain ⟨hwhole, hfraction⟩ := List.forall_mem_append.mp hdigits.2
    refine List.forall_mem_append.mpr ⟨fun c hc => .inl (hwhole c hc), ?_⟩
    exact List.forall_mem_cons.mpr ⟨.inr hseparator, fun c hc => .inl (hfraction c hc)⟩

theorem IsMantissa.ne_nil {separators text : List Char} (h : IsMantissa separators text) :
    text ≠ [] := by
  rcases h with hdigits | ⟨whole, fraction, separator, _, _, rfl⟩
  · exact hdigits.1
  · simp

theorem IsNumeral.unsigned {text : List Char} (h : IsNumeral ['.'] text) : Unsigned text := by
  obtain ⟨mantissa, exponent, hmantissa, _, rfl⟩ := h
  obtain ⟨first, rest, rfl⟩ := List.exists_cons_of_ne_nil hmantissa.ne_nil
  intro c hc
  obtain rfl : first = c := Option.some.inj hc
  rcases hmantissa.forall_mem first List.mem_cons_self with hdigit | hpoint
  · exact ne_sign_of_isDigit hdigit
  · obtain rfl := List.mem_singleton.mp hpoint
    decide

/-- What stands after the sign decides. -/
theorem isSome_readPointed?_body (token : List Char) :
    (readPointed? token).isSome = true ↔
      IsName (splitSign token).2 ∨ IsNumeral ['.'] (splitSign token).2 := by
  rw [← isSome_numeral?]
  simp only [readPointed?, IsName, List.mem_cons, List.not_mem_nil, or_false]
  split
  · next hname => exact iff_of_true rfl (.inl (hname.imp_right .inl))
  · next hname =>
    split
    · next hnan => exact iff_of_true rfl (.inl (.inr (.inr hnan)))
    · next hnan =>
      rw [Option.isSome_map]
      refine ⟨.inr, fun h => h.resolve_left ?_⟩
      rintro (hinf | hinfinity | hsame)
      · exact hname (.inl hinf)
      · exact hname (.inr hinfinity)
      · exact hnan hsame

/-- **Pointed tokens.**  Where only the point is a separator, just the tokens are read. -/
theorem isSome_readPointed? (token : List Char) :
    (readPointed? token).isSome = true ↔ IsToken ['.'] token := by
  rw [isSome_readPointed?_body]
  constructor
  · intro h
    obtain ⟨sign, hsign, htoken⟩ := exists_sign token
    exact ⟨sign, _, hsign, h, htoken⟩
  · rintro ⟨sign, body, hsign, hbody, rfl⟩
    have hunsigned : Unsigned body := hbody.elim IsName.unsigned IsNumeral.unsigned
    rwa [splitSign_append hsign hunsigned]

/-! ## Separators of tokens -/

/-- A text without separators of any kind. -/
def Unseparated (text : List Char) : Prop :=
  ∀ c ∈ text, c ≠ '.' ∧ c ≠ ','

theorem Unseparated.append {first second : List Char} (hfirst : Unseparated first)
    (hsecond : Unseparated second) : Unseparated (first ++ second) :=
  List.forall_mem_append.mpr ⟨hfirst, hsecond⟩

theorem unseparated_of_isDigit {text : List Char} (h : ∀ c ∈ text, isDigit c = true) :
    Unseparated text := by
  intro c hc
  have hdigit := h c hc
  constructor
  · rintro rfl
    cases hdigit
  · rintro rfl
    cases hdigit

theorem IsSign.unseparated {text : List Char} (h : IsSign text) : Unseparated text := by
  unfold Unseparated
  rcases h with rfl | rfl | rfl <;> simp

theorem IsExponent.unseparated {text : List Char} (h : IsExponent text) : Unseparated text := by
  rcases h with rfl | ⟨mark, sign, digits, hmark, hsign, hdigits, rfl⟩
  · exact fun c hc => by cases hc
  · refine List.forall_mem_cons.mpr ⟨?_,
      hsign.unseparated.append (unseparated_of_isDigit hdigits.2)⟩
    rcases hmark with rfl | rfl <;> decide

theorem IsName.unseparated {text : List Char} (h : IsName text) : Unseparated text := by
  have htable : ∀ name ∈ ["inf".toList, "infinity".toList, "nan".toList],
      '.' ∉ name ∧ ',' ∉ name := by
    decide
  obtain ⟨hpoint, hcomma⟩ := htable _ h
  intro c hc
  have hlowered : Text.lowerAscii c ∈ Text.lowered text := List.mem_map_of_mem hc
  constructor
  · rintro rfl
    exact hpoint hlowered
  · rintro rfl
    exact hcomma hlowered

theorem not_isMark_of_isDigit {text : List Char} (h : ∀ c ∈ text, isDigit c = true) :
    ∀ c ∈ text, ¬ IsMark c := by
  intro c hc hmark
  have hdigit := h c hc
  rcases hmark with rfl | rfl <;> cases hdigit

theorem IsSign.not_isMark {text : List Char} (h : IsSign text) : ∀ c ∈ text, ¬ IsMark c := by
  unfold IsMark
  rcases h with rfl | rfl | rfl <;> simp

/-- A token has no separator, and is one whatever the separators are; or it has a single one, which
stands before the exponent and may be replaced by any other. -/
theorem IsToken.split {separators text : List Char} (h : IsToken separators text) :
    (Unseparated text ∧ ∀ others, IsToken others text) ∨
      ∃ before after, ∃ separator ∈ separators, text = before ++ separator :: after ∧
        Unseparated before ∧ Unseparated after ∧ (∀ c ∈ before, ¬ IsMark c) ∧
        ∀ others, ∀ other ∈ others, IsToken others (before ++ other :: after) := by
  obtain ⟨sign, body, hsign, hname | hnumeral, rfl⟩ := h
  · exact .inl ⟨hsign.unseparated.append hname.unseparated,
      fun others => ⟨sign, body, hsign, .inl hname, rfl⟩⟩
  · obtain ⟨mantissa, exponent, hmantissa, hexponent, rfl⟩ := hnumeral
    rcases hmantissa with hdigits | ⟨whole, fraction, separator, hseparator, hdigits, rfl⟩
    · have hplain := (unseparated_of_isDigit hdigits.2).append hexponent.unseparated
      exact .inl ⟨hsign.unseparated.append hplain,
        fun others => ⟨sign, _, hsign, .inr ⟨mantissa, exponent, .inl hdigits, hexponent, rfl⟩,
          rfl⟩⟩
    · obtain ⟨hwhole, hfraction⟩ := List.forall_mem_append.mp hdigits.2
      refine .inr ⟨sign ++ whole, fraction ++ exponent, separator, hseparator, by simp,
        hsign.unseparated.append (unseparated_of_isDigit hwhole),
        (unseparated_of_isDigit hfraction).append hexponent.unseparated,
        List.forall_mem_append.mpr ⟨hsign.not_isMark, not_isMark_of_isDigit hwhole⟩, ?_⟩
      intro others other hother
      refine ⟨sign, whole ++ other :: fraction ++ exponent, hsign, .inr ?_, by simp⟩
      exact ⟨_, exponent, .inr ⟨whole, fraction, other, hother, hdigits, rfl⟩, hexponent, rfl⟩

/-! ## Commas -/

theorem commaAsPoint_of_not_mem {text : List Char} (h : ',' ∉ text) : commaAsPoint text = text := by
  induction text with
  | nil => rfl
  | cons c rest ih =>
      obtain ⟨hc, hrest⟩ := not_or.mp (mt List.mem_cons.mpr h)
      rw [commaAsPoint, if_neg (Ne.symm hc), ih hrest]

theorem commaAsPoint_append {before : List Char} (h : ',' ∉ before) (after : List Char) :
    commaAsPoint (before ++ ',' :: after) = before ++ '.' :: after := by
  induction before with
  | nil => rfl
  | cons c rest ih =>
      obtain ⟨hc, hrest⟩ := not_or.mp (mt List.mem_cons.mpr h)
      rw [List.cons_append, commaAsPoint, if_neg (Ne.symm hc), ih hrest]
      rfl

theorem Unseparated.point_not_mem {text : List Char} (h : Unseparated text) : '.' ∉ text :=
  fun hmem => (h '.' hmem).1 rfl

theorem Unseparated.comma_not_mem {text : List Char} (h : Unseparated text) : ',' ∉ text :=
  fun hmem => (h ',' hmem).2 rfl

/-- Where only the point is a separator, a token has no comma. -/
theorem IsToken.comma_not_mem {text : List Char} (h : IsToken ['.'] text) : ',' ∉ text := by
  rcases h.split with ⟨hplain, _⟩ | ⟨before, after, separator, hpoint, rfl, hbefore, hafter, _⟩
  · exact hplain.comma_not_mem
  · obtain rfl := List.mem_singleton.mp hpoint
    simpa using ⟨hbefore.comma_not_mem, hafter.comma_not_mem⟩

/-- A token in which the first comma counts as a point may have either of them. -/
theorem isToken_commaAsPoint_iff (text : List Char) :
    IsToken ['.'] (commaAsPoint text) ↔ IsToken ['.', ','] text := by
  constructor
  · intro h
    by_cases hcomma : ',' ∈ text
    · obtain ⟨before, after, rfl, hbefore⟩ := List.eq_append_cons_of_mem hcomma
      rw [commaAsPoint_append hbefore] at h
      rcases h.split with ⟨hplain, _⟩ | ⟨first, second, separator, hpoint, htext, hfirst, hsecond,
        _, hother⟩
      · exact absurd (by simp) hplain.point_not_mem
      · -- the point that was a comma is the only separator
        obtain rfl := List.mem_singleton.mp hpoint
        obtain ⟨rfl, _, rfl⟩ := (List.append_cons_inj_of_notMem hfirst.point_not_mem
          hsecond.point_not_mem).mp htext.symm
        exact hother _ ',' (by simp)
    · rw [commaAsPoint_of_not_mem hcomma] at h
      rcases h.split with ⟨_, htoken⟩ | ⟨first, second, separator, hpoint, rfl, _, _, _, hother⟩
      · exact htoken _
      · obtain rfl := List.mem_singleton.mp hpoint
        exact hother _ '.' (by simp)
  · intro h
    rcases h.split with ⟨hplain, htoken⟩ | ⟨first, second, separator, hseparator, rfl, hfirst,
      hsecond, _, hother⟩
    · rw [commaAsPoint_of_not_mem hplain.comma_not_mem]
      exact htoken _
    · have htoken := hother ['.'] '.' (by simp)
      rcases List.mem_cons.mp hseparator with rfl | hcomma
      · rwa [commaAsPoint_of_not_mem]
        simpa using ⟨hfirst.comma_not_mem, hsecond.comma_not_mem⟩
      · obtain rfl := List.mem_singleton.mp hcomma
        rwa [commaAsPoint_append hfirst.comma_not_mem]

/-- **Tokens.**  Just the tokens with a point or a comma are read. -/
theorem isSome_readToken? (token : String) :
    (readToken? token).isSome = true ↔ IsToken ['.', ','] token.toList := by
  rw [readToken?, isSome_readPointed?, isToken_commaAsPoint_iff]

end BankStatement.Decimal
