import BankStatement.Proofs.Decimal.Tokens
import BankStatement.Proofs.Format.Agreement

/-!
# Numbers from tokens and rows

A token gives a number just when it is a sign and then a name or a numeral, with a point or a comma
in it but not both (`accepts_readNumber`).

A rule does not fail on tokens that are no numbers: it counts them as zero.  So nothing changes when
such a token is replaced by `0`, and every first comma by a point (`Row.amounts`), and the columns
that the rule does not read may hold anything (`Rule.number_amounts`).

## Strategy

What a column gives depends on `Rule.tokenAmount` of its token, and replacing tokens keeps that
(`Rule.tokenAmount_amountToken`): once the first comma of a number is a point, it has no other comma
that could be taken for the first.  The rest is an induction on the rule (`Rule.number_map`).  A sum
adds up the numbers of its parts as the reader meets them, which is the same as reading all of them
first (`Rule.addNumbers_eq`).
-/

namespace BankStatement

/-! ## Which tokens are numbers -/

theorem readNumber_of_some {token : String} {x : Binary64} (h : Decimal.readToken? token = some x) :
    readNumber token = .ok x := by
  rw [readNumber, h]

theorem readNumber_of_none {token : String} (h : Decimal.readToken? token = none) :
    readNumber token = .error (.numericParse token) := by
  rw [readNumber, h]

/-- A token is read, or it is refused as it is. -/
theorem readNumber_cases (token : String) :
    (Decimal.IsToken ['.', ','] token.toList ∧
      ∃ x, Decimal.readToken? token = some x ∧ readNumber token = .ok x) ∨
    (¬ Decimal.IsToken ['.', ','] token.toList ∧ Decimal.readToken? token = none ∧
      readNumber token = .error (.numericParse token)) := by
  rw [← Decimal.isSome_readToken?]
  cases hread : Decimal.readToken? token with
  | some x => exact .inl ⟨rfl, x, rfl, readNumber_of_some hread⟩
  | none => exact .inr ⟨Bool.false_ne_true, rfl, readNumber_of_none hread⟩

theorem readNumber_of_not_isToken {token : String}
    (h : ¬ Decimal.IsToken ['.', ','] token.toList) :
    readNumber token = .error (.numericParse token) := by
  rcases readNumber_cases token with ⟨htoken, _⟩ | ⟨_, _, hread⟩
  · exact absurd htoken h
  · exact hread

/-- A character that may separate the whole digits of a number from the others. -/
def isSeparator (c : Char) : Bool :=
  c == '.' || c == ','

namespace Decimal

variable {text : List Char}

theorem Unseparated.countP_eq_zero (h : Unseparated text) : text.countP isSeparator = 0 := by
  rw [List.countP_eq_zero]
  intro c hc
  simpa [isSeparator] using h c hc

/-- A token has one separator at most. -/
theorem IsToken.countP_le (h : IsToken ['.', ','] text) : text.countP isSeparator ≤ 1 := by
  rcases h.split with ⟨hplain, _⟩ | ⟨before, after, separator, hseparator, rfl, hbefore, hafter, _⟩
  · rw [hplain.countP_eq_zero]
    exact Nat.zero_le 1
  · rw [List.countP_append, List.countP_cons, hbefore.countP_eq_zero, hafter.countP_eq_zero]
    split <;> decide

/-- A token has no separator in its exponent. -/
theorem IsToken.unseparated_exponent {before after : List Char} {mark : Char} (hmark : IsMark mark)
    (h : IsToken ['.', ','] (before ++ mark :: after)) : Unseparated after := by
  rcases h.split with ⟨hplain, _⟩ | ⟨first, rest, separator, hseparator, htext, _, hrest, hfirst, _⟩
  · intro c hc
    exact hplain c (List.mem_append_right _ (List.mem_cons_of_mem _ hc))
  · have hne : mark ≠ separator := by
      rintro rfl
      rcases hmark with rfl | rfl <;> exact absurd hseparator (by decide)
    rcases List.append_eq_append_iff.mp htext with ⟨between, rfl, hmarked⟩ | ⟨between, rfl, hsplit⟩
    · -- the mark would stand before the separator
      cases between with
      | nil => exact absurd (List.cons.inj hmarked).1 hne
      | cons c more =>
          obtain ⟨rfl, _⟩ := List.cons.inj hmarked
          exact absurd hmark (hfirst mark (by simp))
    · cases between with
      | nil => exact absurd (List.cons.inj hsplit).1.symm hne
      | cons c more =>
          obtain ⟨_, rfl⟩ := List.cons.inj hsplit
          intro c hc
          exact hrest c (by simp [hc])

end Decimal

theorem exists_readNumber_iff (token : String) :
    (∃ x, readNumber token = .ok x) ↔ Decimal.IsToken ['.', ','] token.toList := by
  rcases readNumber_cases token with ⟨htoken, x, _, hread⟩ | ⟨hnot, _, herror⟩
  · exact ⟨fun _ => htoken, fun _ => ⟨x, hread⟩⟩
  · refine ⟨fun ⟨x, hread⟩ => ?_, fun htoken => absurd htoken hnot⟩
    rw [herror] at hread
    cases hread

/-- Tokens that differ only in whether their one separator is a comma or a point are the same
number, or neither is one. -/
theorem readNumber_comma_or_point {comma point : String} {before after : List Char}
    (hcomma : comma.toList = before ++ ',' :: after)
    (hpoint : point.toList = before ++ '.' :: after)
    (hplain : ∀ c ∈ before ++ after, isSeparator c = false) :
    (∃ x, readNumber comma = .ok x ∧ readNumber point = .ok x) ∨
      readNumber comma = .error (.numericParse comma) ∧
        readNumber point = .error (.numericParse point) := by
  have hne : ∀ c ∈ before ++ after, c ≠ ',' := by
    rintro c hc rfl
    exact absurd (hplain ',' hc) (by decide)
  have hbefore : ',' ∉ before := fun hmem => hne ',' (List.mem_append_left _ hmem) rfl
  have hafter : ',' ∉ after := fun hmem => hne ',' (List.mem_append_right _ hmem) rfl
  have hpointed : ',' ∉ before ++ '.' :: after := by
    simpa using ⟨hbefore, hafter⟩
  have hsame : Decimal.readToken? comma = Decimal.readToken? point := by
    unfold Decimal.readToken?
    rw [hcomma, hpoint, Decimal.commaAsPoint_append hbefore,
      Decimal.commaAsPoint_of_not_mem hpointed]
  rcases readNumber_cases comma with ⟨_, x, hread, hok⟩ | ⟨_, hnone, herror⟩
  · exact .inl ⟨x, hok, readNumber_of_some (hsame ▸ hread)⟩
  · exact .inr ⟨herror, readNumber_of_none (hsame ▸ hnone)⟩

/-- **Numbers have one separator.**  A token is read just when it is an optional sign and then one
of the names or digits with at most one separator and an optional exponent.  So tokens with two
separators and tokens with one in the exponent are refused, and whether a single separator is a
comma or a point makes no difference: both tokens are the same number, or both are refused. -/
theorem accepts_readNumber :
    (∀ token : String, (∃ x, readNumber token = .ok x) ↔
      Decimal.IsToken ['.', ','] token.toList) ∧
    (∀ token : String, 2 ≤ token.toList.countP isSeparator →
      readNumber token = .error (.numericParse token)) ∧
    (∀ (token : String) (before after : List Char) (mark : Char),
      token.toList = before ++ mark :: after → Decimal.IsMark mark →
      (∃ c ∈ after, isSeparator c = true) → readNumber token = .error (.numericParse token)) ∧
    ∀ (comma point : String) (before after : List Char), comma.toList = before ++ ',' :: after →
      point.toList = before ++ '.' :: after → (∀ c ∈ before ++ after, isSeparator c = false) →
      (∃ x, readNumber comma = .ok x ∧ readNumber point = .ok x) ∨
        readNumber comma = .error (.numericParse comma) ∧
          readNumber point = .error (.numericParse point) := by
  refine ⟨exists_readNumber_iff, fun token hcount => ?_,
    fun token before after mark htoken hmark ⟨c, hc, hseparator⟩ => ?_,
    fun comma point before after => readNumber_comma_or_point⟩
  · apply readNumber_of_not_isToken
    intro h
    exact absurd h.countP_le (Nat.not_le.mpr hcount)
  · apply readNumber_of_not_isToken
    rw [htoken]
    intro h
    have hplain := h.unseparated_exponent hmark c hc
    simp [isSeparator, hplain] at hseparator

/-- A comma for the thousands before the point, a point in the exponent, and a decimal comma. -/
theorem accepts_readNumber_thousands :
    2 ≤ "1,234.56".toList.countP isSeparator ∧
      readNumber "1,234.56" = .error (.numericParse "1,234.56") ∧
      Decimal.IsMark 'e' ∧ (∃ c ∈ "3.5".toList, isSeparator c = true) ∧
      readNumber "2e3.5" = .error (.numericParse "2e3.5") ∧
      (∀ c ∈ "-12".toList ++ "50".toList, isSeparator c = false) ∧
      ∃ x, readNumber "-12,50" = .ok x ∧ readNumber "-12.50" = .ok x := by
  have hcount : 2 ≤ "1,234.56".toList.countP isSeparator := by decide
  have hmem : ∃ c ∈ "3.5".toList, isSeparator c = true := ⟨'.', by decide, rfl⟩
  have hplain : ∀ c ∈ "-12".toList ++ "50".toList, isSeparator c = false := by simp [isSeparator]
  obtain ⟨_, hseveral, hexponent, hcomma⟩ := accepts_readNumber
  refine ⟨hcount, hseveral _ hcount, .inl rfl, hmem,
    hexponent "2e3.5" "2".toList "3.5".toList 'e' (by decide) (.inl rfl) hmem, hplain, ?_⟩
  have hread : (readNumber "-12,50").toOption.isSome = true := by decide +kernel
  refine (hcomma "-12,50" "-12.50" "-12".toList "50".toList (by decide) (by decide)
    hplain).resolve_right fun ⟨herror, _⟩ => ?_
  rw [herror] at hread
  cases hread

/-! ## Tokens as amounts -/

namespace Rule

/-- A token as amounts count it: with its first comma turned into a point, or `0` when it is no
number. -/
def amountToken (token : String) : String :=
  match readNumber token with
  | .ok _ => String.ofList (Decimal.commaAsPoint token.toList)
  | .error _ => "0"

theorem tokenAmount_zero : tokenAmount "0" = .zero false := by
  rfl

theorem tokenAmount_amountToken (token : String) :
    tokenAmount (amountToken token) = tokenAmount token := by
  unfold amountToken
  rcases readNumber_cases token with ⟨htoken, x, hread, hok⟩ | ⟨_, hnone, herror⟩
  · have hpointed := (Decimal.isToken_commaAsPoint_iff _).mpr htoken
    simp only [hok, tokenAmount, Decimal.readToken?, String.toList_ofList]
    rw [Decimal.commaAsPoint_of_not_mem hpointed.comma_not_mem]
  · simp only [herror, tokenAmount_zero]
    rw [tokenAmount, hnone, Option.getD_none]

/-! ## Sums -/

theorem number_sum (row : Row) (parts : List Rule) :
    (sum parts).number row = addNumbers row (.zero false) parts := by
  unfold number
  rfl

/-- The numbers of the parts are added, from left to right, to what there is. -/
theorem addNumbers_eq (row : Row) (parts : List Rule) (total : Binary64) :
    addNumbers row total parts =
      (parts.mapM fun part : Rule => part.number row).map fun numbers =>
        numbers.foldl (· + ·) total := by
  induction parts generalizing total with
  | nil =>
      unfold addNumbers
      rfl
  | cons part rest ih =>
      unfold addNumbers
      rw [List.mapM_cons]
      cases part.number row with
      | error e => rfl
      | ok x =>
          calc addNumbers row (total + x) rest
              = (rest.mapM fun part : Rule => part.number row).map fun numbers =>
                  numbers.foldl (· + ·) (total + x) := ih (total + x)
            _ = _ := by cases (rest.mapM fun part : Rule => part.number row) <;> rfl

/-! ## Rows as amounts -/

/-- Each token is taken from its column as it is replaced. -/
theorem token_map (replace : String → String) (row : Row) (index : UInt64) :
    Row.token (row.map replace) index = (row.token index).map replace := by
  unfold Row.token
  rw [List.getElem?_map, List.length_map]
  cases row[index.toNat]? <;> rfl

mutual

/-- A rule gives the same number when tokens are replaced by others that stand for as much. -/
theorem number_map {replace : String → String}
    (hreplace : ∀ token, tokenAmount (replace token) = tokenAmount token) (row : Row) :
    ∀ rule : Rule, rule.number (row.map replace) = rule.number row
  | column index multiplier pattern => by
      unfold number
      rw [token_map]
      cases row.token index with
      | error e => rfl
      | ok token => exact congrArg (fun amount => Except.ok (amount * multiplier)) (hreplace token)
  | sum parts => by
      rw [number_sum, number_sum]
      exact addNumbers_map hreplace row parts (.zero false)

theorem addNumbers_map {replace : String → String}
    (hreplace : ∀ token, tokenAmount (replace token) = tokenAmount token) (row : Row) :
    ∀ (parts : List Rule) (total : Binary64),
      addNumbers (row.map replace) total parts = addNumbers row total parts
  | [], _ => by
      unfold addNumbers
      rfl
  | part :: rest, total => by
      unfold addNumbers
      rw [number_map hreplace row part]
      cases part.number row with
      | error e => rfl
      | ok x => exact addNumbers_map hreplace row rest (total + x)

end

/-! ## Columns -/

theorem exists_error_number_iff (row : Row) (rule : Rule) :
    (∃ e, rule.number row = .error e) ↔ ∃ index ∈ rule.columns, row.length ≤ index.toNat := by
  have hmissing := errorOf?_number row rule
  constructor
  · rintro ⟨e, he⟩
    rw [he] at hmissing
    obtain ⟨index, hindex, hshort, _⟩ := Row.exists_of_missing? hmissing.symm
    exact ⟨index, hindex, hshort⟩
  · rintro ⟨index, hindex, hshort⟩
    cases hnumber : rule.number row with
    | error e => exact ⟨e, rfl⟩
    | ok x =>
        rw [hnumber] at hmissing
        have hthere := Row.missing?_eq_none_iff.mp hmissing.symm index hindex
        exact absurd hthere (Nat.not_lt.mpr hshort)

/-- Rows with the same tokens in the columns of a rule give the same number, or none of them gives
one. -/
theorem toOption_number_congr {row other : Row} {rule : Rule}
    (h : ∀ index ∈ rule.columns, row[index.toNat]? = other[index.toNat]?) :
    (rule.number row).toOption = (rule.number other).toOption := by
  by_cases hshort : ∃ index ∈ rule.columns, row.length ≤ index.toNat
  · have hother : ∃ index ∈ rule.columns, other.length ≤ index.toNat := by
      obtain ⟨index, hindex, hmissing⟩ := hshort
      refine ⟨index, hindex, List.getElem?_eq_none_iff.mp ?_⟩
      rw [← h index hindex]
      exact List.getElem?_eq_none hmissing
    obtain ⟨e, he⟩ := (exists_error_number_iff row rule).mpr hshort
    obtain ⟨e', he'⟩ := (exists_error_number_iff other rule).mpr hother
    rw [he, he']
    rfl
  · have hagrees : row.AgreesOn rule.columns other := by
      intro index hindex
      have hthere : index.toNat < row.length :=
        Nat.lt_of_not_le fun hmissing => hshort ⟨index, hindex, hmissing⟩
      have hsame := h index hindex
      rw [List.getElem?_eq_getElem hthere] at hsame
      unfold Row.token
      rw [← hsame, List.getElem?_eq_getElem hthere]
    rw [number_congr hagrees]

end Rule

/-- The row with every token as amounts count it. -/
def Row.amounts (row : Row) : Row :=
  row.map Rule.amountToken

namespace Rule

/-- **Only missing columns fail.**  A rule gives no number just when the row lacks a column of it,
at any depth.  Otherwise its number is that of the row in which tokens that are no numbers are `0`
and first commas are points; a sum adds the numbers of its parts from left to right, beginning with
zero; and only the tokens in the columns of the rule count. -/
theorem number_amounts (row : Row) :
    (∀ rule : Rule, (∃ e, rule.number row = .error e) ↔
      ∃ index ∈ rule.columns, row.length ≤ index.toNat) ∧
    (∀ rule : Rule, rule.number row.amounts = rule.number row) ∧
    (∀ parts : List Rule, (sum parts).number row =
      (parts.mapM fun part : Rule => part.number row).map fun numbers =>
        numbers.foldl (· + ·) (.zero false)) ∧
    ∀ (rule : Rule) (other : Row),
      (∀ index ∈ rule.columns, row[index.toNat]? = other[index.toNat]?) →
        (rule.number row).toOption = (rule.number other).toOption := by
  refine ⟨exists_error_number_iff row, number_map tokenAmount_amountToken row, fun parts => ?_,
    fun rule other h => toOption_number_congr h⟩
  rw [number_sum]
  exact addNumbers_eq row parts (.zero false)

/-- A nested sum over a price, a word and a fee, of which the word does not count. -/
theorem number_amounts_nestedSum :
    let rule : Rule := .sum [.ofColumn 0, .sum [.ofColumn 2, .ofColumn 3]]
    let row : Row := ["1,50", "Rent", "none", "2"]
    let other : Row := ["1,50", "Water", "none", "2", "paid"]
    rule.columns = [0, 2, 3] ∧ row.amounts = ["1.50", "0", "0", "2"] ∧
      rule.number row.amounts = rule.number row ∧
      (∀ index ∈ rule.columns, row[index.toNat]? = other[index.toNat]?) ∧
      (rule.number row).toOption = (rule.number other).toOption := by
  intro rule row other
  have hcolumns : rule.columns = [0, 2, 3] := rfl
  have hsame : ∀ index ∈ rule.columns, row[index.toNat]? = other[index.toNat]? := by
    rw [hcolumns]
    simp [row, other]
  exact ⟨hcolumns, by decide +kernel, (number_amounts row).2.1 rule, hsame,
    (number_amounts row).2.2.2 rule other hsame⟩

end Rule

end BankStatement
