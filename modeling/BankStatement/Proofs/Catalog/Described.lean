import BankStatement.Proofs.Binary64.Error
import BankStatement.Proofs.Catalog.Shape
import BankStatement.Proofs.Json.Readable

/-!
# Which documents match the schema

The schema of catalogs, in words: a document is an object, its list of formats is an array of
formats, a format has a name that is not empty and a rule for each of the six fields, and rules are
objects of four members, one of which may hold rules again.  `IsDocument` says this of values
without any schema, and a value violates nothing exactly when it is a document
(`violations_eq_nil_iff`).

All members of a name are asked to be what the name says, so nothing depends on which of them counts
where an object has several.  What passes for a count is left open (`Counts`): the schema takes
every number that is a natural number, however it is written, and the reader of catalogs takes
fewer.

## Strategy

One lemma for each kind of schema says when there are no violations: values of one type, counts,
arrays (`violations_arrayOf_iff`) and objects (`violations_keywords_iff`).  The rest is by following
the references.  Rules refer to rules: from the schema to the predicate the induction is on the size
of the value, and back it is on the predicate.
-/

namespace BankStatement

namespace Json

/-- The number is a natural number, with or without a fraction of zeros. -/
def Number.IsNatural : Number → Prop
  | .integer n => 0 ≤ n
  | .real x => x.isFinite = true ∧ ∃ n : Nat, x.signedUnits = (n * Binary64.unitsPerOne : Nat)

end Json

namespace Catalog

open Json (Number Schema Value)

/-! ## Documents -/

/-- An object whose members are those of a rule.  The parts of a sum are rules, to any depth. -/
inductive IsRule (Counts : Number → Prop) : Value → Prop
  | object {members : List (String × Value)}
      (field : ∀ value, ("field", value) ∈ members → value.IsNumber Counts)
      (dateformat : ∀ value, ("dateformat", value) ∈ members → value.IsText)
      (multiplier : ∀ value, ("multiplier", value) ∈ members → ∃ n, value = .number n)
      (sum : ∀ value, ("sum", value) ∈ members → ∃ parts, value = .array parts)
      (parts : ∀ parts, ("sum", .array parts) ∈ members → ∀ part ∈ parts, IsRule Counts part) :
      IsRule Counts (.object members)

theorem isRule_object_iff {Counts : Number → Prop} {members : List (String × Value)} :
    IsRule Counts (.object members) ↔
      (∀ value, ("field", value) ∈ members → value.IsNumber Counts) ∧
        (∀ value, ("dateformat", value) ∈ members → value.IsText) ∧
        (∀ value, ("multiplier", value) ∈ members → ∃ n, value = .number n) ∧
        ∀ value, ("sum", value) ∈ members → value.IsArrayOf (IsRule Counts) := by
  constructor
  · rintro ⟨field, dateformat, multiplier, sum, parts⟩
    refine ⟨field, dateformat, multiplier, fun value hmem => ?_⟩
    obtain ⟨items, rfl⟩ := sum value hmem
    exact ⟨items, rfl, parts items hmem⟩
  · rintro ⟨field, dateformat, multiplier, sum⟩
    refine .object field dateformat multiplier (fun value hmem => ?_) fun parts hmem => ?_
    · obtain ⟨items, rfl, _⟩ := sum value hmem
      exact ⟨items, rfl⟩
    · obtain ⟨_, hsame, hitems⟩ := sum _ hmem
      cases hsame
      exact hitems

/-- An object with a rule for each of the six fields. -/
def IsFields (Counts : Number → Prop) (value : Value) : Prop :=
  ∃ members, value = .object members ∧ ∀ name ∈ fieldNames,
    (∃ rule, (name, rule) ∈ members) ∧ ∀ rule, (name, rule) ∈ members → IsRule Counts rule

/-- The members of a format: a name and fields, and what else there may be. -/
structure FormatMembers (Counts : Number → Prop) (members : List (String × Value)) : Prop where
  named : ∃ value, ("name", value) ∈ members
  name : ∀ value, ("name", value) ∈ members → ∃ text, value = .string text ∧ text ≠ ""
  currency : ∀ value, ("curdef", value) ∈ members → value.IsText
  header : ∀ value, ("skip-header", value) ∈ members → value.IsNumber Counts
  footer : ∀ value, ("skip-footer", value) ∈ members → value.IsNumber Counts
  comma : ∀ value, ("comma", value) ∈ members → value.IsText
  encoding : ∀ value, ("encoding", value) ∈ members → value.IsText
  ruled : ∃ value, ("fields", value) ∈ members
  fields : ∀ value, ("fields", value) ∈ members → IsFields Counts value

def IsFormat (Counts : Number → Prop) (value : Value) : Prop :=
  ∃ members, value = .object members ∧ FormatMembers Counts members

/-- An object whose list of formats, if it has one, holds formats. -/
def IsDocument (Counts : Number → Prop) (value : Value) : Prop :=
  ∃ members, value = .object members ∧
    ∀ formats, ("format", formats) ∈ members → formats.IsArrayOf (IsFormat Counts)

/-! ## Values of one type -/

theorem violations_text_iff {value : Value} :
    (typed .string).violations definitions value = [] ↔ value.IsText := by
  cases value with
  | string text => exact ⟨fun _ => ⟨text, rfl⟩, fun _ => rfl⟩
  | _ => exact ⟨nofun, nofun⟩

theorem violations_number_iff {value : Value} :
    (typed .number).violations definitions value = [] ↔ ∃ n, value = .number n := by
  cases value with
  | number n => exact ⟨fun _ => ⟨n, rfl⟩, fun _ => rfl⟩
  | _ => exact ⟨nofun, nofun⟩

/-- A text of at least one character is one that is not empty. -/
theorem violations_name_iff {value : Value} :
    Schema.violations definitions (.keywords [.string] none (some 1) [] [] none []) value = [] ↔
      ∃ text, value = .string text ∧ text ≠ "" := by
  cases value with
  | string text =>
      refine ⟨fun h => ⟨text, rfl, ?_⟩, ?_⟩
      · rintro rfl
        cases h
      · rintro ⟨other, hsame, hne⟩
        cases hsame
        exact violations_name hne
  | _ => exact ⟨nofun, nofun⟩

/-! ## Counts -/

/-- A natural number is one without a fraction that is not below zero. -/
theorem isNatural_iff (n : Number) : n.IsNatural ↔ n.isWhole = true ∧ 0 ≤ n.inUnits := by
  have hpos : (0 : Int) < Binary64.unitsPerOne := Int.natCast_pos.mpr Binary64.unitsPerOne_pos
  cases n with
  | integer n =>
      show 0 ≤ n ↔ true = true ∧ 0 ≤ n * (Binary64.unitsPerOne : Int)
      rw [Int.mul_nonneg_iff_of_pos_right hpos]
      simp
  | real x =>
      have hunits : x.signedUnits.natAbs = Binary64.units x.magnitude :=
        Binary64.natAbs_signedUnits x
      show x.isFinite = true ∧ _ ↔ (x.isFinite && _) = true ∧ 0 ≤ x.signedUnits
      rw [Bool.and_eq_true, beq_iff_eq, ← hunits, and_assoc, ← Nat.dvd_iff_mod_eq_zero]
      refine and_congr Iff.rfl ⟨?_, ?_⟩
      · rintro ⟨n, hn⟩
        rw [hn]
        exact ⟨Nat.dvd_mul_left _ _, Int.natCast_nonneg _⟩
      · rintro ⟨⟨n, hn⟩, hsign⟩
        refine ⟨n, ?_⟩
        rw [Nat.mul_comm, ← hn, Int.natAbs_of_nonneg hsign]

/-- The schema of counts takes the natural numbers. -/
theorem violations_count_iff {value : Value} :
    countSchema.violations definitions value = [] ↔ value.IsNumber Number.IsNatural := by
  cases value with
  | number n =>
      have hown : countSchema.violations definitions (.number n) = [] ↔
          n.isWhole = true ∧ 0 ≤ n.inUnits := by
        have hzero : (Number.integer 0).inUnits = 0 := Int.zero_mul _
        simp [countSchema, Schema.violations, Schema.resolve, Schema.ownViolations, Value.hasType,
          hzero]
      rw [hown, ← isNatural_iff]
      refine ⟨fun h => ⟨n, rfl, h⟩, ?_⟩
      rintro ⟨other, hsame, hnatural⟩
      cases hsame
      exact hnatural
  | _ =>
      constructor
      · rintro ⟨⟩
      · rintro ⟨_, ⟨⟩, _⟩

/-! ## Arrays and objects -/

/-- A reference is followed. -/
theorem violations_reference {name : String} (schema : Schema)
    (hname : Schema.resolve definitions (.reference name) = schema)
    (hschema : schema.resolve definitions = schema) (value : Value) :
    Schema.violations definitions (.reference name) value =
      schema.violations definitions value := by
  cases value <;> simp only [Schema.violations, hname, hschema]

theorem violations_arrayOf_iff {name : String} {value : Value} :
    (arrayOf name).violations definitions value = [] ↔
      value.IsArrayOf fun item => Schema.violations definitions (.reference name) item = [] := by
  cases value with
  | array items =>
      have hitems : (arrayOf name).violations definitions (.array items) =
          Schema.itemViolations definitions [] (.reference name) items := rfl
      rw [hitems, itemViolations_eq_nil]
      refine ⟨fun h => ⟨items, rfl, h⟩, ?_⟩
      rintro ⟨others, hsame, h⟩
      cases hsame
      exact h
  | _ => exact ⟨nofun, nofun⟩

mutual

/-- Members of which the schema does not speak are not constrained. -/
theorem violations_anything : ∀ value : Value, Schema.violations definitions .anything value = []
  | .null | .bool _ | .number _ | .string _ => rfl
  | .array items => itemViolations_eq_nil.mpr (violations_anything_items items)
  | .object members => memberViolations_eq_nil.mpr (violations_anything_members members)

theorem violations_anything_items : ∀ items : List Value,
    ∀ item ∈ items, Schema.violations definitions .anything item = []
  | [] => nofun
  | item :: rest => List.forall_mem_cons.mpr
      ⟨violations_anything item, violations_anything_items rest⟩

theorem violations_anything_members : ∀ members : List (String × Value),
    ∀ member ∈ members, Schema.violations definitions .anything member.2 = []
  | [] => nofun
  | (_, value) :: rest => List.forall_mem_cons.mpr
      ⟨violations_anything value, violations_anything_members rest⟩

end

theorem lookup_eq_none_iff {name : String} {members : List (String × Value)} :
    Value.lookup name members = none ↔ ∀ value, (name, value) ∉ members := by
  induction members with
  | nil => simp [Value.lookup]
  | cons member rest ih =>
      obtain ⟨key, other⟩ := member
      by_cases h : key = name
      · simp only [Value.lookup, h, if_true, reduceCtorEq, false_iff, not_forall, not_not]
        exact ⟨other, List.mem_cons_self ..⟩
      · have hne : name ≠ key := fun hsame => h hsame.symm
        simp [Value.lookup, h, hne, ih]

section

variable {required : List String} {properties : List (String × Schema)}

/-- Of an object itself a schema says that nothing required is missing. -/
theorem ownViolations_object_iff {members : List (String × Value)} :
    Schema.ownViolations (.keywords [.object] none none required [] none properties)
        (.object members) = [] ↔ ∀ name ∈ required, ∃ member, (name, member) ∈ members := by
  simp [Schema.ownViolations, Value.hasType, lookup_eq_none_iff]

theorem memberSchema_keywords (name : String) :
    Schema.memberSchema name (.keywords [.object] none none required [] none properties) =
      ((properties.find? fun entry => entry.1 == name).map (·.2)).getD .anything := by
  simp only [Schema.memberSchema]
  cases properties.find? fun entry => entry.1 == name <;> rfl

/-- Members are constrained one by one, each by the schema that stands with its name. -/
theorem memberViolations_iff (hnames : (properties.map (·.1)).Nodup)
    {members : List (String × Value)} :
    Schema.memberViolations definitions
        (.keywords [.object] none none required [] none properties) members = [] ↔
      ∀ property ∈ properties, ∀ member, (property.1, member) ∈ members →
        Schema.violations definitions property.2 member = [] := by
  rw [memberViolations_eq_nil]
  refine ⟨fun h property hproperty member hmem => ?_, fun h member hmem => ?_⟩
  · have hschema := h _ hmem
    rw [memberSchema_keywords, Json.find?_name hnames hproperty] at hschema
    exact hschema
  · rw [memberSchema_keywords]
    cases hfind : properties.find? fun entry => entry.1 == member.1 with
    | none => exact violations_anything member.2
    | some entry =>
        have hname : entry.1 = member.1 := by simpa using List.find?_some hfind
        exact h entry (List.mem_of_find?_eq_some hfind) member.2 (by rw [hname]; exact hmem)

/-- What a schema of objects takes: objects that have what is required and whose members violate
nothing. -/
theorem violations_keywords_iff (hnames : (properties.map (·.1)).Nodup) {value : Value} :
    Schema.violations definitions
      (.keywords [.object] none none required [] none properties) value =
        [] ↔
      ∃ members, value = .object members ∧
        (∀ name ∈ required, ∃ member, (name, member) ∈ members) ∧
        ∀ property ∈ properties, ∀ member, (property.1, member) ∈ members →
          Schema.violations definitions property.2 member = [] := by
  cases value with
  | object members =>
      refine List.append_eq_nil_iff.trans ((and_congr ownViolations_object_iff
        (memberViolations_iff hnames)).trans ⟨fun h => ⟨members, rfl, h⟩, ?_⟩)
      rintro ⟨others, hsame, h⟩
      cases hsame
      exact h
  | _ =>
      constructor
      · rintro ⟨⟩
      · rintro ⟨_, ⟨⟩, _⟩

end

/-! ## Rules -/

/-- What the schema of rules says, one reference deep. -/
theorem violations_ruleSchema_iff {value : Value} :
    Schema.violations definitions (.reference "rule") value = [] ↔
      ∃ members, value = .object members ∧
        (∀ value, ("field", value) ∈ members → value.IsNumber Number.IsNatural) ∧
        (∀ value, ("dateformat", value) ∈ members → value.IsText) ∧
        (∀ value, ("multiplier", value) ∈ members → ∃ n, value = .number n) ∧
        ∀ value, ("sum", value) ∈ members → value.IsArrayOf fun part =>
          Schema.violations definitions (.reference "rule") part = [] := by
  rw [violations_reference ruleSchema rfl rfl, ruleSchema,
    violations_keywords_iff (by decide)]
  simp only [List.forall_mem_cons, List.not_mem_nil, false_implies, implies_true, true_and,
    and_true, violations_count_iff, violations_text_iff, violations_number_iff,
    violations_arrayOf_iff]

theorem isRule_of_violations : ∀ {value : Value},
    Schema.violations definitions (.reference "rule") value = [] → IsRule Number.IsNatural value
  | .object members, h => by
      obtain ⟨_, hsame, hfield, hdateformat, hmultiplier, hsum⟩ := violations_ruleSchema_iff.mp h
      cases hsame
      refine isRule_object_iff.mpr ⟨hfield, hdateformat, hmultiplier, fun value hmem => ?_⟩
      obtain ⟨parts, rfl, hparts⟩ := hsum value hmem
      exact ⟨parts, rfl, fun part hpart => isRule_of_violations (hparts part hpart)⟩
  | .null, h | .bool _, h | .number _, h | .string _, h | .array _, h => by cases h
termination_by value => sizeOf value
decreasing_by
  have hmember := List.sizeOf_lt_of_mem hmem
  have hitem := List.sizeOf_lt_of_mem hpart
  simp only [Value.object.sizeOf_spec, Prod.mk.sizeOf_spec, Value.array.sizeOf_spec] at hmember ⊢
  omega

theorem IsRule.violations {value : Value} (h : IsRule Number.IsNatural value) :
    Schema.violations definitions (.reference "rule") value = [] := by
  induction h with
  | object field dateformat multiplier sum _ ih =>
      refine violations_ruleSchema_iff.mpr ⟨_, rfl, field, dateformat, multiplier, ?_⟩
      intro value hmem
      obtain ⟨parts, rfl⟩ := sum value hmem
      exact ⟨parts, rfl, ih parts hmem⟩

theorem violations_rule_iff {value : Value} :
    Schema.violations definitions (.reference "rule") value = [] ↔ IsRule Number.IsNatural value :=
  ⟨isRule_of_violations, IsRule.violations⟩

/-! ## Fields, formats and documents -/

theorem violations_fields_iff {value : Value} :
    Schema.violations definitions (.reference "fields") value = [] ↔
      IsFields Number.IsNatural value := by
  rw [violations_reference fieldsSchema rfl rfl, fieldsSchema,
    violations_keywords_iff (by decide)]
  simp only [List.forall_mem_map, violations_rule_iff, IsFields, forall_and]

theorem violations_format_iff {value : Value} :
    Schema.violations definitions (.reference "format") value = [] ↔
      IsFormat Number.IsNatural value := by
  rw [violations_reference formatSchema rfl rfl, formatSchema,
    violations_keywords_iff (by decide)]
  simp only [List.forall_mem_cons, List.not_mem_nil, false_implies, implies_true, and_true,
    violations_name_iff, violations_text_iff, violations_count_iff, violations_fields_iff]
  refine exists_congr fun members => and_congr Iff.rfl ⟨?_, fun h => ?_⟩
  · rintro ⟨⟨named, ruled⟩, name, currency, header, footer, comma, encoding, fields⟩
    exact ⟨named, name, currency, header, footer, comma, encoding, ruled, fields⟩
  · exact ⟨⟨h.named, h.ruled⟩, h.name, h.currency, h.header, h.footer, h.comma, h.encoding,
      h.fields⟩

theorem violations_document_iff {value : Value} :
    documentSchema.violations definitions value = [] ↔ IsDocument Number.IsNatural value := by
  rw [documentSchema, violations_keywords_iff (by decide)]
  simp only [List.forall_mem_cons, List.not_mem_nil, false_implies, implies_true, and_true,
    true_and, violations_arrayOf_iff, violations_format_iff, IsDocument]

/-- **The documents that match the schema.**  A value violates nothing exactly when it is an object
whose list of formats, if it has one, is an array of formats: objects with a name that is not empty
and a rule for each of the six fields, to any depth, whatever other members they have. -/
theorem violations_eq_nil_iff (value : Value) :
    violations value = [] ↔ IsDocument Number.IsNatural value :=
  violations_document_iff

end Catalog

end BankStatement
