import BankStatement.Catalog.Shape
import BankStatement.Proofs.Format.Documents

/-!
# What the schema of catalogs says

Whatever matches the schema is a list of objects with names that are not empty
(`Catalog.formats_of_violations`, `Catalog.name_of_violations`), and every catalog whose rules
documents can hold writes a value that matches it (`Catalog.violations_toValue`).  The schema of
rules refers to itself, so the second part is by induction on rules.
-/

namespace BankStatement.Catalog

open Json (Value Schema)

/-! ## Values without violations -/

section

variable {definitions : Schema.Definitions} {schema : Schema}

theorem itemViolations_eq_nil {items : List Value} :
    Schema.itemViolations definitions [] schema items = [] ↔
      ∀ item ∈ items, Schema.violations definitions schema item = [] := by
  induction items with
  | nil => simp [Schema.itemViolations]
  | cons item rest ih =>
      rw [Schema.itemViolations, List.append_eq_nil_iff, List.forall_mem_cons]
      exact and_congr Iff.rfl ih

theorem memberViolations_eq_nil {members : List (String × Value)} :
    Schema.memberViolations definitions schema members = [] ↔
      ∀ member ∈ members,
        Schema.violations definitions (schema.memberSchema member.1) member.2 = [] := by
  induction members with
  | nil => simp [Schema.memberViolations]
  | cons member rest ih =>
      rw [Schema.memberViolations, List.append_eq_nil_iff, List.forall_mem_cons, ih]

theorem violations_array {items : List Value}
    (hown : (schema.resolve definitions).ownViolations (.array items) = [])
    (hfirst : (schema.resolve definitions).firstSchemas = [])
    (hitems : ∀ item ∈ items,
      Schema.violations definitions (schema.resolve definitions).itemSchema item = []) :
    Schema.violations definitions schema (.array items) = [] := by
  rw [Schema.violations, hown, hfirst, itemViolations_eq_nil.mpr hitems]
  rfl

theorem violations_object {members : List (String × Value)}
    (hown : (schema.resolve definitions).ownViolations (.object members) = [])
    (hmembers : ∀ member ∈ members, Schema.violations definitions
      ((schema.resolve definitions).memberSchema member.1) member.2 = []) :
    Schema.violations definitions schema (.object members) = [] := by
  rw [Schema.violations, hown, memberViolations_eq_nil.mpr hmembers]
  rfl

end

/-- A document without violations is an object, and its list of formats is an array of values
without violations. -/
theorem formats_of_violations {value : Value} (h : violations value = []) :
    ∃ members, value = .object members ∧ ∀ items, ("format", .array items) ∈ members →
      ∀ item ∈ items, formatSchema.violations definitions item = [] := by
  cases value with
  | object members =>
      refine ⟨members, rfl, fun items hmem item hitem => ?_⟩
      have hmembers := (List.append_eq_nil_iff.mp h).2
      have hitems := memberViolations_eq_nil.mp hmembers _ hmem
      have hreference := itemViolations_eq_nil.mp (List.append_eq_nil_iff.mp hitems).2 item hitem
      cases item <;> exact hreference
  | _ => cases h

/-- A format without violations is an object, and its name is a text that is not empty. -/
theorem name_of_violations {value : Value} (h : formatSchema.violations definitions value = []) :
    ∃ members, value = .object members ∧
      ∀ name, ("name", .string name) ∈ members → name ≠ "" := by
  cases value with
  | object members =>
      refine ⟨members, rfl, fun name hmem hempty => ?_⟩
      have hmembers := (List.append_eq_nil_iff.mp h).2
      have hname := memberViolations_eq_nil.mp hmembers _ hmem
      rw [hempty] at hname
      cases hname
  | _ => cases h

/-! ## What matches the schema -/

/-- A natural number is a whole number from zero on. -/
theorem violations_natural (n : Nat) : countSchema.violations definitions (.natural n) = [] := by
  have hminimum : ¬(Json.Number.integer n).inUnits < (Json.Number.integer 0).inUnits := by
    simp only [Json.Number.inUnits, Int.zero_mul, Int.not_lt]
    exact Int.mul_nonneg (Int.natCast_nonneg n) (Int.natCast_nonneg _)
  simp [Value.natural, Schema.violations, Schema.resolve, countSchema, Schema.ownViolations,
    Value.hasType, Json.Number.isWhole, hminimum]

theorem violations_ofBinary64 {x : Binary64} (h : x.isFinite = true) :
    (typed .number).violations definitions (.ofBinary64 x) = [] := by
  rw [Value.ofBinary64_of_isFinite h]
  rfl

mutual

theorem violations_rule : ∀ {rule : Rule}, rule.Storable →
    Schema.violations definitions (.reference "rule") rule.toValue.sorted = []
  | .column index multiplier none, ⟨hfinite, _⟩ => by
      rw [Rule.sorted_column]
      apply violations_object rfl
      simp only [List.nil_append, List.forall_mem_cons]
      exact ⟨violations_natural _, violations_ofBinary64 hfinite, by simp⟩
  | .column index multiplier (some date), ⟨hfinite, _⟩ => by
      rw [Rule.sorted_column]
      apply violations_object rfl
      simp only [List.cons_append, List.nil_append, List.forall_mem_cons]
      exact ⟨rfl, violations_natural _, violations_ofBinary64 hfinite, by simp⟩
  | .sum parts, ⟨hne, hparts⟩ => by
      rw [Rule.sorted_sum hne]
      apply violations_object rfl
      simp only [List.forall_mem_cons]
      exact ⟨violations_natural _, violations_ofBinary64 Binary64.isFinite_one,
        violations_array rfl rfl (violations_parts hparts), by simp⟩

theorem violations_parts : ∀ {parts : List Rule}, Rule.storableParts parts →
    ∀ item ∈ Value.sortedItems (parts.map Rule.toValue),
      Schema.violations definitions (.reference "rule") item = []
  | [], _ => fun item hitem => by cases hitem
  | part :: rest, ⟨hpart, hrest⟩ => by
      rw [List.map_cons, Value.sortedItems, List.forall_mem_cons]
      exact ⟨violations_rule hpart, violations_parts hrest⟩

end

theorem violations_fields {rules : FieldRules} (h : rules.Storable) :
    Schema.violations definitions (.reference "fields") rules.toValue.sorted = [] := by
  have hrule : ∀ field ∈ rules.named,
      Schema.violations definitions (.reference "rule") field.2.toValue.sorted = [] :=
    fun field hfield => violations_rule (h field hfield)
  simp only [FieldRules.named, List.forall_mem_cons] at hrule
  obtain ⟨htrntype, hdtposted, hdtuser, htrnamt, hmemo, hftid, hnone⟩ := hrule
  rw [FieldRules.sorted_toValue]
  apply violations_object rfl
  simp only [List.forall_mem_cons]
  exact ⟨hdtposted, hdtuser, hftid, hmemo, htrnamt, htrntype, by simp⟩

/-- The name of a format is a text of at least one character. -/
theorem violations_name {name : String} (h : name ≠ "") :
    Schema.violations definitions (.keywords [.string] none (some 1) [] [] none [])
      (.string name) = [] := by
  have hlength : ¬name.length < 1 := by
    intro hshort
    exact h (String.length_eq_zero_iff.mp (by omega))
  simp [Schema.violations, Schema.resolve, Schema.ownViolations, Value.hasType, hlength]

theorem violations_format {format : Format} (hname : format.name ≠ "")
    (hfields : format.fields.Storable) :
    Schema.violations definitions (.reference "format") format.toValue.sorted = [] := by
  rw [Format.sorted_toValue]
  cases format.encodingLabel with
  | none =>
      apply violations_object rfl
      simp only [List.cons_append, List.nil_append, List.forall_mem_cons]
      exact ⟨rfl, rfl, violations_fields hfields, violations_name hname, violations_natural _,
        violations_natural _, by simp⟩
  | some label =>
      apply violations_object rfl
      simp only [List.cons_append, List.nil_append, List.forall_mem_cons]
      exact ⟨rfl, rfl, rfl, violations_fields hfields, violations_name hname, violations_natural _,
        violations_natural _, by simp⟩

end BankStatement.Catalog
