import BankStatement.Proofs.Format.Columns

/-!
# Rows that agree where a format looks

The value of a rule depends on the tokens in its columns and on nothing else, with one exception:
the error for a missing column tells how many columns the row has.  So a row may be replaced by any
other one that has the same fields in the columns that are read, when the two are equally long or
long enough (`SameFields`).  The rules for the transaction type and the transaction id are not among
those that are read, and of the other settings of a format only the currency, the delimiter and the
encoding are looked at (`Format.SameUse`).
-/

namespace BankStatement

/-! ## Rows -/

/-- Whether two rows have the same tokens in some columns, or the same error for those missing. -/
def Row.AgreesOn (columns : List UInt64) (row other : Row) : Prop :=
  ∀ index ∈ columns, row.token index = other.token index

/-- Whether the fields of two rows are the same in some columns, byte for byte.  The rows have
equally many fields, or each has all of these columns. -/
structure SameFields (columns : List UInt64) (fields others : List (List UInt8)) : Prop where
  bytes : ∀ index ∈ columns, fields[index.toNat]? = others[index.toNat]?
  length : fields.length = others.length ∨
    ∀ index ∈ columns, index.toNat < fields.length ∧ index.toNat < others.length

/-- Fields after all these columns do not count. -/
theorem sameFields_append {columns : List UInt64} {fields : List (List UInt8)}
    (h : ∀ index ∈ columns, index.toNat < fields.length) (more : List (List UInt8)) :
    SameFields columns (fields ++ more) fields where
  bytes index hindex := List.getElem?_append_left (h index hindex)
  length := .inr fun index hindex =>
    ⟨Nat.lt_of_lt_of_le (h index hindex) (by simp), h index hindex⟩

theorem SameFields.agreesOn {columns : List UInt64} {fields others : List (List UInt8)}
    (h : SameFields columns fields others) :
    Row.AgreesOn columns (.ofBytes fields) (.ofBytes others) := by
  intro index hindex
  have hbytes := h.bytes index hindex
  simp only [Row.token, Row.ofBytes, List.getElem?_map, List.length_map, ← hbytes]
  cases hfield : fields[index.toNat]? with
  | some bytes => rfl
  | none =>
      have hmissing := List.getElem?_eq_none_iff.mp hfield
      -- a missing column is reported with the number of fields
      have hlength : fields.length = others.length :=
        h.length.resolve_right fun hlong =>
          absurd (hlong index hindex).1 (Nat.not_lt.mpr hmissing)
      simp [hlength]

/-! ## Rules -/

namespace Rule

variable {row other : Row}

theorem text_congr {rule : Rule} (h : row.AgreesOn rule.columns other) :
    rule.text row = rule.text other := by
  cases rule with
  | column index multiplier pattern => exact h index (List.mem_singleton.mpr rfl)
  | sum parts => rfl

theorem date_congr {rule : Rule} (h : row.AgreesOn rule.columns other) :
    rule.date row = rule.date other := by
  cases rule with
  | column index multiplier pattern =>
      have htoken := h index (List.mem_singleton.mpr rfl)
      simp only [date, htoken]
  | sum parts => rfl

mutual

theorem number_congr : ∀ {rule : Rule}, row.AgreesOn rule.columns other →
    rule.number row = rule.number other
  | column index multiplier pattern, h => by
      have htoken := h index (List.mem_singleton.mpr rfl)
      simp only [number, htoken]
  | sum parts, h => by
      unfold number
      exact addNumbers_congr h (.zero false)

theorem addNumbers_congr : ∀ {parts : List Rule}, row.AgreesOn (columnsOf parts) other →
    ∀ total : Binary64, addNumbers row total parts = addNumbers other total parts
  | [], _, total => by
      unfold addNumbers
      rfl
  | part :: rest, h, total => by
      have hpart : part.number row = part.number other :=
        number_congr fun index hindex => h index (List.mem_append_left _ hindex)
      have hrest : ∀ next : Binary64, addNumbers row next rest = addNumbers other next rest :=
        addNumbers_congr fun index hindex => h index (List.mem_append_right _ hindex)
      simp only [addNumbers, hpart, hrest]

end

/-- Rows that agree on the columns of several rules agree on those of each. -/
theorem agreesOn_of_mem {rules : List Rule} (h : row.AgreesOn (columnsOf rules) other) {rule : Rule}
    (hrule : rule ∈ rules) : row.AgreesOn rule.columns other := by
  induction rules with
  | nil => cases hrule
  | cons first rest ih =>
      cases hrule with
      | head => exact fun index hindex => h index (List.mem_append_left _ hindex)
      | tail _ hrest =>
          exact ih (fun index hindex => h index (List.mem_append_right _ hindex)) hrest

end Rule

/-! ## Formats -/

namespace Format

/-- Whether two formats agree in everything that is looked at when statements are made: all but the
name, the numbers of header and footer rows, the rules for the transaction type and the transaction
id, and what follows the first character of `comma`. -/
structure SameUse (format other : Format) : Prop where
  declaredCurrency : format.declaredCurrency = other.declaredCurrency
  comma : format.comma.toList.head? = other.comma.toList.head?
  encodingLabel : format.encodingLabel = other.encodingLabel
  dtposted : format.fields.dtposted = other.fields.dtposted
  dtuser : format.fields.dtuser = other.fields.dtuser
  trnamt : format.fields.trnamt = other.fields.trnamt
  memo : format.fields.memo = other.fields.memo

namespace SameUse

variable {format other : Format}

theorem currency (h : format.SameUse other) : format.currency = other.currency := by
  unfold Format.currency
  rw [h.declaredCurrency]

theorem dialect (h : format.SameUse other) : format.dialect = other.dialect := by
  have hdelimiter : format.delimiter = other.delimiter := by
    unfold delimiter
    rw [List.headD_eq_head?_getD, List.headD_eq_head?_getD, h.comma]
  unfold Format.dialect
  rw [hdelimiter, h.encodingLabel]

/-- Rows that agree in the columns that are read give the same transaction, or the same error. -/
theorem decode (h : format.SameUse other) {row otherRow : Row}
    (hrows : row.AgreesOn (Rule.columnsOf format.readRules) otherRow) :
    format.decode row = other.decode otherRow := by
  have hread : ∀ {rule : Rule}, rule ∈ format.readRules → row.AgreesOn rule.columns otherRow :=
    Rule.agreesOn_of_mem hrows
  have hamount : format.fields.trnamt.number row = other.fields.trnamt.number otherRow := by
    rw [← h.trnamt]
    exact Rule.number_congr (hread (by simp [readRules]))
  have hposted : format.fields.dtposted.date row = other.fields.dtposted.date otherRow := by
    rw [← h.dtposted]
    exact Rule.date_congr (hread (by simp [readRules]))
  have huser : format.fields.dtuser.date row = other.fields.dtuser.date otherRow := by
    rw [← h.dtuser]
    exact Rule.date_congr (hread (by simp [readRules]))
  have hmemo : format.fields.memo.text row = other.fields.memo.text otherRow := by
    rw [← h.memo]
    exact Rule.text_congr (hread (by simp [readRules]))
  unfold Format.decode
  rw [hamount, hposted, huser, hmemo]

end SameUse

end Format

end BankStatement
