import BankStatement.Proofs.Format.Columns
import Mathlib.Algebra.Group.Nat.Defs

/-!
# How many columns a row needs

Two recursions go over the rules of a format.  One computes the greatest column that is read, and
from it how many columns a row needs; the other reads the row and stops at the first column that is
not there.  They agree: a row gives a transaction exactly when it has as many columns as the format
needs, and any other row fails with the error of the first missing column
(`Format.decode_iff_requiredColumns`).

The greatest column is described by what lies above it (`Rule.forall_maxColumn_lt_iff`), which says
the same of a rule without columns, such as an empty sum, as of any other.
-/

namespace BankStatement

namespace Rule

/-! ## The greatest column -/

theorem mem_columnsOf {index : UInt64} {rules : List Rule} :
    index ∈ columnsOf rules ↔ ∃ rule ∈ rules, index ∈ rule.columns := by
  induction rules with
  | nil => simp [columnsOf]
  | cons rule rest ih => simp [columnsOf, ih]

theorem forall_greaterColumn_lt_iff {n : Nat} (one other : Option UInt64) :
    (∀ index ∈ greaterColumn one other, index.toNat < n) ↔
      (∀ index ∈ one, index.toNat < n) ∧ ∀ index ∈ other, index.toNat < n := by
  cases one with
  | none => simp [greaterColumn]
  | some one =>
      cases other with
      | none => simp [greaterColumn]
      | some other =>
          simp only [greaterColumn, Option.mem_def, Option.some.injEq, forall_eq']
          split
          · next hless =>
            rw [UInt64.lt_iff_toNat_lt] at hless
            omega
          · next hless =>
            rw [UInt64.lt_iff_toNat_lt] at hless
            omega

mutual

/-- The columns of a rule are those up to its greatest one. -/
theorem forall_maxColumn_lt_iff (n : Nat) : ∀ rule : Rule,
    (∀ index ∈ rule.maxColumn, index.toNat < n) ↔ ∀ index ∈ rule.columns, index.toNat < n
  | column index multiplier pattern => by simp [maxColumn, columns]
  | sum parts => by
      unfold maxColumn columns
      exact forall_maxColumnOf_lt_iff n parts

theorem forall_maxColumnOf_lt_iff (n : Nat) : ∀ rules : List Rule,
    (∀ index ∈ maxColumnOf rules, index.toNat < n) ↔ ∀ index ∈ columnsOf rules, index.toNat < n
  | [] => by simp [maxColumnOf, columnsOf]
  | rule :: rest => by
      unfold maxColumnOf columnsOf
      rw [forall_greaterColumn_lt_iff, forall_maxColumn_lt_iff n rule,
        forall_maxColumnOf_lt_iff n rest, List.forall_mem_append]

end

end Rule

namespace Format

variable {format : Format}

/-! ## The number of columns -/

/-- When the greatest column leaves room for a number of columns, that number is the least that
covers all columns that are read. -/
theorem exists_requiredColumns
    (hindices : ∀ index ∈ Rule.columnsOf format.readRules, index.toNat < 2 ^ 64 - 1) :
    ∃ required, format.requiredColumns? = some required ∧
      ∀ n, required.toNat ≤ n ↔ ∀ index ∈ Rule.columnsOf format.readRules, index.toNat < n := by
  have hgreatest := (Rule.forall_maxColumnOf_lt_iff _ _).mpr hindices
  simp only [← Rule.forall_maxColumnOf_lt_iff]
  unfold requiredColumns?
  cases hmax : Rule.maxColumnOf format.readRules with
  | none => exact ⟨0, rfl, by simp⟩
  | some column =>
      have hless : column.toNat < 2 ^ 64 - 1 := hgreatest column hmax
      have hroom : column.toNat + 1 < Nat.pow 2 64 := by
        rw [Nat.pow_eq]
        omega
      have hnext : (column + 1).toNat = column.toNat + 1 := by
        rw [UInt64.toNat_add, UInt64.toNat_one]
        omega
      refine ⟨column + 1, if_pos hroom, fun n => ?_⟩
      rw [hnext, Nat.succ_le_iff]
      simp

/-- There is no number of columns exactly when a rule reads the greatest column that there is. -/
theorem requiredColumns?_eq_none_iff :
    format.requiredColumns? = none ↔
      ∃ index ∈ Rule.columnsOf format.readRules, index.toNat = 2 ^ 64 - 1 := by
  have hroom : (∀ index ∈ Rule.columnsOf format.readRules, index.toNat < 2 ^ 64 - 1) ↔
      ¬∃ index ∈ Rule.columnsOf format.readRules, index.toNat = 2 ^ 64 - 1 := by
    rw [not_exists]
    refine forall_congr' fun index => ?_
    rw [not_and]
    refine imp_congr_right fun _ => ?_
    have := index.toNat_lt
    omega
  constructor
  · intro hnone
    refine Classical.byContradiction fun hlast => ?_
    obtain ⟨required, hrequired, _⟩ := exists_requiredColumns (hroom.mpr hlast)
    rw [hnone] at hrequired
    cases hrequired
  · intro hlast
    have hgreatest : ¬∀ index ∈ Rule.maxColumnOf format.readRules, index.toNat < 2 ^ 64 - 1 := by
      rw [Rule.forall_maxColumnOf_lt_iff, hroom]
      exact not_not_intro hlast
    unfold requiredColumns?
    cases hmax : Rule.maxColumnOf format.readRules with
    | none => simp [hmax] at hgreatest
    | some column =>
        have hfull : ¬column.toNat + 1 < Nat.pow 2 64 := by
          rw [hmax] at hgreatest
          simp only [Option.mem_def, Option.some.injEq, forall_eq'] at hgreatest
          rw [Nat.pow_eq]
          omega
        exact if_neg hfull

/-- The number of columns is the least that covers all columns that are read. -/
theorem toNat_le_iff_of_requiredColumns {required : UInt64}
    (h : format.requiredColumns? = some required) (n : Nat) :
    required.toNat ≤ n ↔ ∀ index ∈ Rule.columnsOf format.readRules, index.toNat < n := by
  have hindices : ∀ index ∈ Rule.columnsOf format.readRules, index.toNat < 2 ^ 64 - 1 := by
    intro index hindex
    have hlast : index.toNat ≠ 2 ^ 64 - 1 := fun hlast => by
      rw [requiredColumns?_eq_none_iff.mpr ⟨index, hindex, hlast⟩] at h
      cases h
    have := index.toNat_lt
    omega
  obtain ⟨same, hsame, hleast⟩ := exists_requiredColumns hindices
  obtain rfl : same = required := Option.some.inj (hsame.symm.trans h)
  exact hleast n

/-- The fields that are read have the columns of the rules that are read. -/
theorem missing?_eq_none_iff {row : Row} :
    format.missing? row = none ↔
      ∀ index ∈ Rule.columnsOf format.readRules, index.toNat < row.length := by
  have hrules : ∀ rule, (∃ name, (name, rule) ∈ format.readFields) ↔ rule ∈ format.readRules := by
    simp only [readFields, readRules, List.mem_cons, Prod.mk.injEq, List.not_mem_nil, or_false]
    intro rule
    constructor
    · rintro ⟨_, ⟨_, rfl⟩ | ⟨_, rfl⟩ | ⟨_, rfl⟩ | ⟨_, rfl⟩⟩ <;> simp
    · rintro (rfl | rfl | rfl | rfl)
      · exact ⟨"dtposted", by simp⟩
      · exact ⟨"dtuser", by simp⟩
      · exact ⟨"trnamt", by simp⟩
      · exact ⟨"memo", by simp⟩
  simp only [missing?, List.findSome?_eq_none_iff, Option.map_eq_none_iff,
    Row.missing?_eq_none_iff, Rule.mem_columnsOf, ← hrules]
  constructor
  · rintro h index ⟨rule, ⟨name, hread⟩, hindex⟩
    exact h (name, rule) hread index hindex
  · rintro h ⟨name, rule⟩ hread index hindex
    exact h index ⟨rule, ⟨name, hread⟩, hindex⟩

/-! ## Rows -/

/-- **Which rows give a transaction.**  Take a format with single columns for texts and dates and
any rule for the amount, of which no column is so great that there is no number of columns above it.
A row gives a transaction exactly when it has as many columns as the format needs.  Any other row
fails with the error of the first column that it lacks: the first of the fields `trnamt`,
`dtposted`, `dtuser` and `memo` with a missing column, and the first such column of its rule from
left to right.  So it depends on the number of tokens alone, and whatever they say, no date and no
number makes a row fail. -/
theorem decode_iff_requiredColumns (hcolumns : format.ReadsColumns)
    (hindices : ∀ index ∈ Rule.columnsOf format.readRules, index.toNat < 2 ^ 64 - 1) (row : Row) :
    (∃ required, format.requiredColumns? = some required ∧
      ((∃ transaction, format.decode row = .ok transaction) ↔ required.toNat ≤ row.length)) ∧
    (∀ e, format.decode row = .error e ↔ format.missing? row = some e) ∧
    ∀ other : Row, other.length = row.length →
      ∀ e, format.decode other = .error e ↔ format.decode row = .error e := by
  have herror : ∀ (row : Row) e, format.decode row = .error e ↔ format.missing? row = some e :=
    fun row e => by rw [← errorOf?_eq_some_iff, errorOf?_decode hcolumns]
  refine ⟨?_, herror row, fun other hlength e => ?_⟩
  · obtain ⟨required, hrequired, hleast⟩ := exists_requiredColumns hindices
    refine ⟨required, hrequired, ?_⟩
    rw [← errorOf?_eq_none_iff, errorOf?_decode hcolumns, missing?_eq_none_iff, hleast]
  · have hsame : format.missing? other = format.missing? row := by
      unfold missing? Row.missing?
      rw [hlength]
    rw [herror, herror, hsame]

/-- An amount with an empty sum and two missing columns, of which the greater one comes later, and a
missing date, which is not the first field to be read. -/
theorem decode_iff_requiredColumns_nestedSum :
    let format : Format := { exampleFormat with
      fields := { exampleFormat.fields with
        dtposted := .column 12 .one none
        trnamt := .sum [.sum [], .sum [.ofColumn 1, .ofColumn 7], .ofColumn 9] } }
    let row : Row := ["x", "12,5", "y", "", ""]
    format.ReadsColumns ∧
      (∀ index ∈ Rule.columnsOf format.readRules, index.toNat < 2 ^ 64 - 1) ∧
      format.requiredColumns? = some 13 ∧
      format.decode row = .error ⟨"trnamt", .malformedRow 7 5⟩ := by
  intro format row
  have hcolumns : format.ReadsColumns := ⟨rfl, rfl, rfl⟩
  have hindices : ∀ index ∈ Rule.columnsOf format.readRules, index.toNat < 2 ^ 64 - 1 := by
    have hlist : Rule.columnsOf format.readRules = [12, 1, 1, 7, 9, 2] := rfl
    simp [hlist]
  refine ⟨hcolumns, hindices, by decide, ?_⟩
  exact ((decode_iff_requiredColumns hcolumns hindices row).2.1 _).mpr (by decide)

end Format

end BankStatement
