import BankStatement.Format.Check
import BankStatement.Statement.Transaction

/-!
# The columns that a format reads

A rule refers to columns, and the only thing that can go wrong when it is applied to a row is that
one of them is not there, as long as the rule is not a sum where a text or a date is wanted.  Which
error that gives is an equation for each reading of a rule: it is the error of the first column that
the row lacks (`Row.missing?`), from left to right and at any depth.  A format that has single
columns for its texts and dates fails with the error of the first of its four fields that has one
(`Format.errorOf?_decode`), so a row that gives no transaction is too short for one of the fields
that are read (`Format.rowTooShort_of_decode_error`).
-/

namespace BankStatement

/-! ## Errors of results -/

/-- The error of a result, if it is one. -/
def errorOf? {ε α : Type} : Except ε α → Option ε
  | .ok _ => none
  | .error e => some e

section

variable {ε α β : Type} {result : Except ε α}

theorem errorOf?_eq_some_iff {e : ε} : errorOf? result = some e ↔ result = .error e := by
  cases result <;> simp [errorOf?]

theorem errorOf?_eq_none_iff : errorOf? result = none ↔ ∃ value, result = .ok value := by
  cases result <;> simp [errorOf?]

/-- What comes first fails first. -/
theorem errorOf?_bind {next : α → Except ε β} {e? : Option ε}
    (hnext : ∀ value, errorOf? (next value) = e?) :
    errorOf? (result >>= next) = (errorOf? result).or e? := by
  cases result with
  | error e => rfl
  | ok value => exact hnext value

/-- The first result comes before those of the rest. -/
theorem findSome?_cons_eq_or (f : α → Option β) (first : α) (rest : List α) :
    (first :: rest).findSome? f = (f first).or (rest.findSome? f) := by
  rw [← List.singleton_append, List.findSome?_append, List.findSome?_singleton]

end

theorem errorOf?_atField {α : Type} (field : String) (result : Except FieldError α) :
    errorOf? (atField field result) = (errorOf? result).map (RowError.mk field) := by
  cases result <;> rfl

/-! ## Missing columns -/

/-- The error of the first of some columns that the row lacks. -/
def Row.missing? (row : Row) (columns : List UInt64) : Option FieldError :=
  (columns.find? fun index => row.length ≤ index.toNat).map fun index =>
    .malformedRow index row.length

namespace Row

variable {row : Row}

theorem missing?_append (columns more : List UInt64) :
    row.missing? (columns ++ more) = (row.missing? columns).or (row.missing? more) := by
  unfold missing?
  rw [List.find?_append, Option.map_or]

theorem missing?_eq_none_iff {columns : List UInt64} :
    row.missing? columns = none ↔ ∀ index ∈ columns, index.toNat < row.length := by
  simp [missing?]

theorem exists_of_missing? {columns : List UInt64} {e : FieldError}
    (h : row.missing? columns = some e) :
    ∃ index ∈ columns, row.length ≤ index.toNat ∧ e = .malformedRow index row.length := by
  obtain ⟨index, hfind, rfl⟩ := Option.map_eq_some_iff.mp h
  have hshort := List.find?_some hfind
  exact ⟨index, List.mem_of_find?_eq_some hfind, of_decide_eq_true hshort, rfl⟩

theorem errorOf?_token (row : Row) (index : UInt64) :
    errorOf? (row.token index) = row.missing? [index] := by
  unfold token missing?
  by_cases hmissing : row.length ≤ index.toNat
  · rw [List.getElem?_eq_none hmissing, List.find?_cons_of_pos (by simpa using hmissing)]
    rfl
  · rw [List.getElem?_eq_getElem (Nat.not_le.mp hmissing),
      List.find?_cons_of_neg (by simpa using hmissing)]
    rfl

end Row

/-! ## Columns of rules -/

namespace Rule

mutual

/-- The columns that a rule reads, at any depth and from left to right. -/
def columns : Rule → List UInt64
  | column index _ _ => [index]
  | sum parts => columnsOf parts

def columnsOf : List Rule → List UInt64
  | [] => []
  | part :: rest => part.columns ++ columnsOf rest

end

mutual

/-- A rule gives no number only when a column is missing. -/
theorem errorOf?_number (row : Row) :
    ∀ rule : Rule, errorOf? (rule.number row) = row.missing? rule.columns
  | column index multiplier pattern => by
      have htoken := row.errorOf?_token index
      unfold number columns
      cases token : row.token index with
      | error e =>
          rw [token] at htoken
          exact htoken
      | ok text =>
          rw [token] at htoken
          exact htoken
  | sum parts => by
      unfold number columns
      exact errorOf?_addNumbers row parts (.zero false)

theorem errorOf?_addNumbers (row : Row) :
    ∀ (parts : List Rule) (total : Binary64),
      errorOf? (addNumbers row total parts) = row.missing? (columnsOf parts)
  | [], total => by
      unfold addNumbers
      rfl
  | part :: rest, total => by
      have hpart := errorOf?_number row part
      unfold addNumbers columnsOf
      rw [Row.missing?_append, ← hpart]
      cases number : part.number row with
      | error e => rfl
      | ok x => exact errorOf?_addNumbers row rest (total + x)

end

/-- A single column gives no text only when it is missing. -/
theorem errorOf?_text {rule : Rule} (hcolumn : rule.isColumn = true) (row : Row) :
    errorOf? (rule.text row) = row.missing? rule.columns := by
  cases rule with
  | sum parts => cases hcolumn
  | column index multiplier pattern => exact row.errorOf?_token index

/-- Of what can be wrong with the date of a single column, only a missing column is not tolerated.
-/
theorem errorOf?_tolerantDate {rule : Rule} (hcolumn : rule.isColumn = true) (field : String)
    (row : Row) :
    errorOf? (tolerantDate field (rule.date row)) =
      (row.missing? rule.columns).map (RowError.mk field) := by
  cases rule with
  | sum parts => cases hcolumn
  | column index multiplier pattern =>
      have htoken := row.errorOf?_token index
      show errorOf? (tolerantDate field _) = (row.missing? [index]).map _
      rw [← htoken]
      simp only [date]
      cases token : row.token index with
      | error e =>
          rw [token] at htoken
          obtain ⟨_, _, _, rfl⟩ := Row.exists_of_missing? htoken.symm
          rfl
      | ok text =>
          cases pattern with
          | none => rfl
          | some pattern =>
              simp only [DatePattern.read]
              cases pattern.read? text <;> rfl

end Rule

/-! ## Rows of formats -/

namespace Format

/-- The fields that are read from a row, with their rules, in the order of reading. -/
def readFields (format : Format) : List (String × Rule) :=
  [("trnamt", format.fields.trnamt), ("dtposted", format.fields.dtposted),
    ("dtuser", format.fields.dtuser), ("memo", format.fields.memo)]

/-- The error of the first of these fields that has a column which the row lacks, at the first such
column. -/
def missing? (format : Format) (row : Row) : Option RowError :=
  format.readFields.findSome? fun field =>
    (row.missing? field.2.columns).map (RowError.mk field.1)

/-- The error of a row that lacks a column of a field that is read. -/
def RowTooShort (format : Format) (row : Row) (e : RowError) : Prop :=
  ∃ rule index, (e.field, rule) ∈ format.readFields ∧ index ∈ rule.columns ∧
    row.length ≤ index.toNat ∧ e.error = .malformedRow index row.length

/-- Whether texts and dates are read from single columns. -/
def ReadsColumns (format : Format) : Prop :=
  format.fields.dtposted.isColumn = true ∧ format.fields.dtuser.isColumn = true ∧
    format.fields.memo.isColumn = true

variable {format : Format}

/-- A row gives no transaction only for a column that it lacks. -/
theorem errorOf?_decode (hcolumns : format.ReadsColumns) (row : Row) :
    errorOf? (format.decode row) = format.missing? row := by
  obtain ⟨hposted, huser, hmemo⟩ := hcolumns
  have hamount := errorOf?_atField "trnamt" (format.fields.trnamt.number row)
  have htext := errorOf?_atField "memo" (format.fields.memo.text row)
  rw [Rule.errorOf?_number] at hamount
  rw [Rule.errorOf?_text hmemo] at htext
  have hread (transaction : Transaction) :
      errorOf? (pure transaction : Except RowError Transaction) = none := rfl
  unfold decode
  refine (errorOf?_bind fun _ => errorOf?_bind fun _ => errorOf?_bind fun _ =>
    errorOf?_bind fun _ => hread _).trans ?_
  rw [hamount, Rule.errorOf?_tolerantDate hposted, Rule.errorOf?_tolerantDate huser, htext]
  simp only [missing?, readFields, findSome?_cons_eq_or, List.findSome?_nil]

/-- A row gives no transaction only when it is too short. -/
theorem rowTooShort_of_decode_error (hcolumns : format.ReadsColumns) {row : Row} {e : RowError}
    (h : format.decode row = .error e) : format.RowTooShort row e := by
  rw [← errorOf?_eq_some_iff, errorOf?_decode hcolumns] at h
  obtain ⟨⟨field, rule⟩, hread, herror⟩ := List.exists_of_findSome?_eq_some h
  obtain ⟨error, hmissing, rfl⟩ := Option.map_eq_some_iff.mp herror
  obtain ⟨index, hindex, hshort, rfl⟩ := Row.exists_of_missing? hmissing
  exact ⟨rule, index, hread, hindex, hshort, rfl⟩

/-! ## Formats that passed their check -/

/-- A format that passed its check has a dialect, and single columns everywhere but for the amount.
-/
theorem of_check (h : format.check = .ok ()) :
    (∃ dialect, format.dialect = .ok dialect) ∧
      ∀ field ∈ format.fields.named, field.1 ≠ "trnamt" → field.2.isColumn = true := by
  unfold check at h
  split at h
  · cases h
  · rename_i dialect hdialect
    refine ⟨⟨dialect, hdialect⟩, fun field hfield hname => ?_⟩
    split at h
    · cases h
    · rename_i hsum
      rw [sumField?, Option.map_eq_none_iff, List.find?_eq_none] at hsum
      simpa [hname] using hsum field hfield

theorem readsColumns_of_check (h : format.check = .ok ()) :
    format.ReadsColumns := by
  obtain ⟨_, hcolumns⟩ := of_check h
  have hfield : ∀ (name : String) {rule : Rule}, (name, rule) ∈ format.fields.named →
      name ≠ "trnamt" → rule.isColumn = true := fun _ _ hmem hname => hcolumns _ hmem hname
  refine ⟨hfield "dtposted" ?_ (by decide), hfield "dtuser" ?_ (by decide),
    hfield "memo" ?_ (by decide)⟩ <;> simp [FieldRules.named]

end Format

end BankStatement
