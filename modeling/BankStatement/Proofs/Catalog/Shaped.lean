import BankStatement.Proofs.Catalog.Described
import BankStatement.Proofs.Catalog.Reload

/-!
# Which documents are read as catalogs

The schema and the reader of catalogs look at the same members and disagree only about counts: the
schema takes every natural number, the reader takes integers of 64 bits that are written without a
fraction.  So a document that matches the schema is read exactly when all its counts are such
integers, and is refused after the schema took it when one of them is not (`ofValue_of_violations`,
and `ofText_document_iff` for texts).

For each record one lemma says what it is read from, in terms of the members of the object
(`exists_entry_iff`, `exists_fieldRules_iff`, `exists_formatMembers_iff`, `exists_formats_iff`), and
one puts this beside what the schema says (`exists_rule_iff`, `exists_fields_iff`,
`exists_format_iff`, `exists_ofShapedValue_iff`).  Rules are by induction on what the schema says of
them.  Depth is never short: as many containers may be entered as are nested in the value.
-/

namespace BankStatement

open Json (Number Value)

namespace Catalog

/-! ## Slots -/

theorem regular_ruleEntry (parts : Json.Reader (List Rule)) : (RuleEntry.shape parts).Regular where
  steady := by simp [RuleEntry.shape, Json.Slot.steady_of]
  distinct := by
    show ["field", "dateformat", "sum", "multiplier"].Nodup
    decide

theorem regular_fieldRules (inner : Nat) : (FieldRules.shape inner).Regular where
  steady := by simp [FieldRules.shape, Json.Slot.steady_of]
  distinct := by
    show fieldNames.Nodup
    decide

theorem regular_format (inner : Nat) : (Format.shape inner).Regular where
  steady := by simp [Format.shape, Json.Slot.steady_of]
  distinct := by
    show ["name", "curdef", "skip-header", "skip-footer", "comma", "encoding", "fields"].Nodup
    decide

theorem regular_shape (inner : Nat) : (shape inner).Regular where
  steady := by simp [shape, Json.Slot.steady_of]
  distinct := List.pairwise_singleton _ _

/-! ## Rules -/

/-- What an entry is read from. -/
theorem exists_entry_iff {parts : Json.Reader (List Rule)} {depth : Nat}
    {members : List (String × Value)} (hnames : (members.map (·.1)).Nodup) (hdepth : 0 < depth) :
    (∃ entry, (RuleEntry.shape parts).read depth (.ofValue (.object members)) = .ok entry) ↔
      (∀ value, ("field", value) ∈ members → value.IsNumber Number.IsWord) ∧
        (∀ value, ("dateformat", value) ∈ members →
          ∃ text, Json.optional Json.text (.ofValue value) = .ok text) ∧
        (∀ value, ("sum", value) ∈ members → ∃ rules, parts (.ofValue value) = .ok rules) ∧
        ∀ value, ("multiplier", value) ∈ members → ∃ x, Json.real (.ofValue value) = .ok x := by
  rw [Json.RecordShape.exists_read_iff (regular_ruleEntry parts) hnames hdepth]
  simp [RuleEntry.shape, Json.Slot.name_of, Json.Slot.omission_of, Json.Slot.exists_read_of_iff,
    Json.exists_unsigned_iff]

/-- A rule is read when its columns are words. -/
theorem exists_rule_iff {value : Value} (h : IsRule Number.IsNatural value) :
    ∀ {depth : Nat}, value.DistinctNames → value.nesting ≤ depth →
      ((∃ rule, Rule.ofTree depth (.ofValue value) = .ok rule) ↔ IsRule Number.IsWord value) := by
  induction h with
  | @object members field dateformat multiplier sum parts ih =>
      intro depth hnames hdepth
      have hpos : 0 < depth := Nat.lt_of_lt_of_le (Nat.succ_pos _) hdepth
      have hsum : ∀ value, ("sum", value) ∈ members →
          ((∃ rules, Json.list (depth - 1) (Rule.ofPart depth) (.ofValue value) = .ok rules) ↔
            value.IsArrayOf (IsRule Number.IsWord)) := by
        intro value hmem
        obtain ⟨items, rfl⟩ := sum value hmem
        -- the parts of a sum are two containers deeper
        have hitems := Value.nesting_lt_of_mem_members hmem
        have hlist : 0 < (Value.array items).nesting := Nat.succ_pos _
        obtain ⟨inner, rfl⟩ : ∃ inner, depth = inner + 2 := ⟨depth - 2, by omega⟩
        have hinner : 0 < inner + 2 - 1 := Nat.succ_pos inner
        rw [Json.exists_list_iff, and_iff_right hinner]
        refine exists_congr fun others => and_congr_right fun hsame =>
          forall₂_congr fun item hitem => ?_
        cases hsame
        have hdeep := Value.nesting_lt_of_mem_items hitem
        exact ih items hmem item hitem ((hnames.member hmem).item hitem) (by omega)
      rw [Rule.ofTree_eq, Json.exists_map_ok_iff, exists_entry_iff hnames.1 hpos, isRule_object_iff,
        forall₂_congr hsum]
      refine and_congr_right fun _ => ?_
      constructor
      · rintro ⟨_, hparts, _⟩
        exact ⟨dateformat, multiplier, hparts⟩
      · rintro ⟨_, _, hparts⟩
        exact ⟨fun value hmem => Json.exists_optional_text (dateformat value hmem), hparts,
          fun value hmem => Json.exists_real (multiplier value hmem)⟩

/-! ## Fields, formats and documents -/

/-- What the rules of a format are read from. -/
theorem exists_fieldRules_iff {depth : Nat} {members : List (String × Value)}
    (hnames : (members.map (·.1)).Nodup) (hdepth : 0 < depth) :
    (∃ rules, FieldRules.ofTree depth (.ofValue (.object members)) = .ok rules) ↔
      ∀ name ∈ fieldNames, (∃ value, (name, value) ∈ members) ∧ ∀ value, (name, value) ∈ members →
        ∃ rule, Rule.ofTree (depth - 1) (.ofValue value) = .ok rule := by
  rw [FieldRules.ofTree, Json.RecordShape.exists_read_iff (regular_fieldRules _) hnames hdepth,
    ← forall₂_and]
  simp [FieldRules.shape, fieldNames, Json.Slot.name_of, Json.Slot.omission_of,
    Json.Slot.exists_read_of_iff]

theorem exists_fields_iff {value : Value} (h : IsFields Number.IsNatural value) {depth : Nat}
    (hnames : value.DistinctNames) (hdepth : value.nesting ≤ depth) :
    (∃ rules, FieldRules.ofTree depth (.ofValue value) = .ok rules) ↔
      IsFields Number.IsWord value := by
  obtain ⟨members, rfl, hrules⟩ := h
  rw [exists_fieldRules_iff hnames.1 (Nat.lt_of_lt_of_le (Nat.succ_pos _) hdepth)]
  have hrule : ∀ name ∈ fieldNames, ∀ rule, (name, rule) ∈ members →
      ((∃ read, Rule.ofTree (depth - 1) (.ofValue rule) = .ok read) ↔
        IsRule Number.IsWord rule) := by
    intro name hname rule hmem
    have hnested := Value.nesting_lt_of_mem_members hmem
    exact exists_rule_iff ((hrules name hname).2 rule hmem) (hnames.member hmem) (by omega)
  constructor
  · intro hread
    refine ⟨members, rfl, fun name hname => ⟨(hrules name hname).1, fun rule hmem => ?_⟩⟩
    exact (hrule name hname rule hmem).mp ((hread name hname).2 rule hmem)
  · rintro ⟨_, hsame, hwords⟩ name hname
    cases hsame
    exact ⟨(hrules name hname).1,
      fun rule hmem => (hrule name hname rule hmem).mpr ((hwords name hname).2 rule hmem)⟩

/-- What a format is read from. -/
theorem exists_formatMembers_iff {depth : Nat} {members : List (String × Value)}
    (hnames : (members.map (·.1)).Nodup) (hdepth : 0 < depth) :
    (∃ format, Format.ofTree depth (.ofValue (.object members)) = .ok format) ↔
      ((∃ value, ("name", value) ∈ members) ∧ ∃ value, ("fields", value) ∈ members) ∧
        (∀ value, ("name", value) ∈ members → value.IsText) ∧
        (∀ value, ("curdef", value) ∈ members → value.IsText) ∧
        (∀ value, ("skip-header", value) ∈ members → value.IsNumber Number.IsWord) ∧
        (∀ value, ("skip-footer", value) ∈ members → value.IsNumber Number.IsWord) ∧
        (∀ value, ("comma", value) ∈ members → value.IsText) ∧
        (∀ value, ("encoding", value) ∈ members →
          ∃ label, Json.optional Json.text (.ofValue value) = .ok label) ∧
        ∀ value, ("fields", value) ∈ members →
          ∃ rules, FieldRules.ofTree (depth - 1) (.ofValue value) = .ok rules := by
  rw [Format.ofTree, Json.RecordShape.exists_read_iff (regular_format _) hnames hdepth]
  simp [Format.shape, Json.Slot.name_of, Json.Slot.omission_of, Json.Slot.exists_read_of_iff,
    Json.exists_text_iff, Json.exists_unsigned_iff]

theorem exists_format_iff {value : Value} (h : IsFormat Number.IsNatural value) {depth : Nat}
    (hnames : value.DistinctNames) (hdepth : value.nesting ≤ depth) :
    (∃ format, Format.ofTree depth (.ofValue value) = .ok format) ↔
      IsFormat Number.IsWord value := by
  obtain ⟨members, rfl, hformat⟩ := h
  rw [exists_formatMembers_iff hnames.1 (Nat.lt_of_lt_of_le (Nat.succ_pos _) hdepth)]
  have hfields : ∀ value, ("fields", value) ∈ members →
      ((∃ rules, FieldRules.ofTree (depth - 1) (.ofValue value) = .ok rules) ↔
        IsFields Number.IsWord value) := by
    intro value hmem
    have hnested := Value.nesting_lt_of_mem_members hmem
    exact exists_fields_iff (hformat.fields value hmem) (hnames.member hmem) (by omega)
  rw [forall₂_congr hfields]
  constructor
  · rintro ⟨_, _, _, header, footer, _, _, fields⟩
    exact ⟨members, rfl, { hformat with header, footer, fields }⟩
  · rintro ⟨_, hsame, hwords⟩
    cases hsame
    refine ⟨⟨hformat.named, hformat.ruled⟩, fun value hmem => ?_, hformat.currency, hwords.header,
      hwords.footer, hformat.comma,
      fun value hmem => Json.exists_optional_text (hformat.encoding value hmem), hwords.fields⟩
    obtain ⟨text, rfl, _⟩ := hformat.name value hmem
    exact ⟨text, rfl⟩

/-- What a catalog is read from. -/
theorem exists_formats_iff {depth inner : Nat} {members : List (String × Value)}
    (hnames : (members.map (·.1)).Nodup) (hdepth : 0 < depth) :
    (∃ catalog, (shape inner).read depth (.ofValue (.object members)) = .ok catalog) ↔
      ∀ value, ("format", value) ∈ members →
        ∃ formats, Json.list inner (Format.ofTree (inner - 1)) (.ofValue value) = .ok formats := by
  rw [Json.RecordShape.exists_read_iff (regular_shape inner) hnames hdepth]
  simp [shape, Json.Slot.name_of, Json.Slot.omission_of, Json.Slot.exists_read_of_iff]

/-- A document that matches the schema is read when its counts are words. -/
theorem exists_ofShapedValue_iff {value : Value} (h : IsDocument Number.IsNatural value)
    (hnames : value.DistinctNames) :
    (∃ catalog, ofShapedValue value = .ok catalog) ↔ IsDocument Number.IsWord value := by
  obtain ⟨members, rfl, hformats⟩ := h
  have hpos : 0 < (Value.object members).nesting := Nat.succ_pos _
  rw [ofShapedValue, exists_formats_iff hnames.1 hpos]
  have hlist : ∀ value, ("format", value) ∈ members →
      ((∃ formats, Json.list ((Value.object members).nesting - 1)
          (Format.ofTree ((Value.object members).nesting - 1 - 1)) (.ofValue value) = .ok formats) ↔
        value.IsArrayOf (IsFormat Number.IsWord)) := by
    intro value hmem
    obtain ⟨items, rfl, hitems⟩ := hformats value hmem
    have hnested := Value.nesting_lt_of_mem_members hmem
    have hinner : 0 < (Value.object members).nesting - 1 :=
      Nat.sub_pos_of_lt (Nat.lt_of_le_of_lt (Nat.succ_pos _) hnested)
    rw [Json.exists_list_iff, and_iff_right hinner]
    refine exists_congr fun others => and_congr_right fun hsame =>
      forall₂_congr fun item hitem => ?_
    cases hsame
    have hdeep := Value.nesting_lt_of_mem_items hitem
    exact exists_format_iff (hitems item hitem) ((hnames.member hmem).item hitem) (by omega)
  rw [forall₂_congr hlist]
  constructor
  · exact fun hwords => ⟨members, rfl, hwords⟩
  · rintro ⟨_, hsame, hwords⟩
    cases hsame
    exact hwords

/-- Once the schema took a value, it is refused as a document exactly when no catalog is read from
it: unusable formats are refused by their names. -/
theorem ofValue_document_iff {text : List Char} {value : Value} (h : violations value = []) :
    (∃ e, ofValue text value = .error (.document text e)) ↔
      ¬∃ catalog, ofShapedValue value = .ok catalog := by
  unfold ofValue
  rw [h]
  cases hshaped : ofShapedValue value with
  | error e => simp
  | ok catalog =>
      simp only
      split <;> simp

/-- A document of one format, whose rules are all of one column. -/
def columnDocument (column : Number) : Value :=
  .object [("format", .array [.object [
    ("fields", .object (fieldNames.map fun name => (name, .object [("field", .number column)]))),
    ("name", .string "simple")]])]

theorem isRule_column_iff {Counts : Number → Prop} {column : Number} :
    IsRule Counts (.object [("field", .number column)]) ↔ Counts column := by
  rw [isRule_object_iff]
  simp [Value.IsNumber]

theorem isFields_column_iff {Counts : Number → Prop} {column : Number} :
    IsFields Counts
        (.object (fieldNames.map fun name => (name, .object [("field", .number column)]))) ↔
      Counts column := by
  constructor
  · rintro ⟨_, hsame, hrules⟩
    cases hsame
    have hmemo : (("memo", .object [("field", .number column)]) : String × Value) ∈
        fieldNames.map fun name => (name, .object [("field", .number column)]) :=
      List.mem_map.mpr ⟨"memo", by decide, rfl⟩
    exact isRule_column_iff.mp ((hrules "memo" (by decide)).2 _ hmemo)
  · intro hcolumn
    refine ⟨_, rfl, fun name hname =>
      ⟨⟨_, List.mem_map.mpr ⟨name, hname, rfl⟩⟩, fun rule hmem => ?_⟩⟩
    obtain ⟨_, _, hpair⟩ := List.mem_map.mp hmem
    cases hpair
    exact isRule_column_iff.mpr hcolumn

theorem isDocument_columnDocument_iff {Counts : Number → Prop} {column : Number} :
    IsDocument Counts (columnDocument column) ↔ Counts column := by
  constructor
  · rintro ⟨_, hsame, hformats⟩
    cases hsame
    obtain ⟨_, hsame, hitems⟩ := hformats _ (List.mem_singleton_self _)
    cases hsame
    obtain ⟨_, hsame, hformat⟩ := hitems _ (List.mem_singleton_self _)
    cases hsame
    exact isFields_column_iff.mp (hformat.fields _ (List.mem_cons_self ..))
  · intro hcolumn
    refine ⟨_, rfl, fun formats hmem => ?_⟩
    cases List.mem_singleton.mp hmem
    refine ⟨_, rfl, fun format hformat => ?_⟩
    cases List.mem_singleton.mp hformat
    refine ⟨_, rfl, ?_⟩
    constructor <;> simp [Value.IsText, isFields_column_iff, hcolumn]

theorem distinctNames_columnDocument (column : Number) : (columnDocument column).DistinctNames := by
  have hrules : Value.distinctMembers
      (fieldNames.map fun name => (name, .object [("field", .number column)])) := by
    refine Value.distinctMembers_iff.mpr (List.forall_mem_map.mpr fun name hname => ?_)
    exact ⟨List.pairwise_singleton _ _, trivial, trivial⟩
  have hnames : ((fieldNames.map fun name =>
      ((name, .object [("field", .number column)]) : String × Value)).map (·.1)).Nodup := by
    show fieldNames.Nodup
    decide
  exact ⟨List.pairwise_singleton _ _,
    ⟨⟨by simp, ⟨hnames, hrules⟩, trivial, trivial⟩, trivial⟩, trivial⟩

/-- **Which documents the schema passes on in vain.**  A document that matches the schema is read
as a catalog exactly when its columns and its counts of lines are written as integers of 64 bits
without a sign; only then it is not refused as malformed after the schema took it.  The schema takes
every natural number for a count. -/
theorem ofValue_of_violations {value : Value} (hnames : value.DistinctNames)
    (h : violations value = []) :
    ((∃ catalog, ofShapedValue value = .ok catalog) ↔ IsDocument Number.IsWord value) ∧
      ∀ text, (∃ e, ofValue text value = .error (.document text e)) ↔
        ¬IsDocument Number.IsWord value := by
  have hshaped := exists_ofShapedValue_iff (violations_document_iff.mp h) hnames
  exact ⟨hshaped, fun text => (ofValue_document_iff h).trans (not_congr hshaped)⟩

theorem ofValue_of_violations_column :
    let document := columnDocument (.integer 1)
    document.DistinctNames ∧ violations document = [] ∧
      (∃ catalog, ofShapedValue document = .ok catalog) ∧ IsDocument Number.IsWord document ∧
      ¬∃ e, ofValue [] document = .error (.document [] e) := by
  intro document
  have hnames : document.DistinctNames := distinctNames_columnDocument _
  have hword : IsDocument Number.IsWord document :=
    isDocument_columnDocument_iff.mpr ⟨by decide, by decide⟩
  have hviolations : violations document = [] :=
    violations_document_iff.mpr (isDocument_columnDocument_iff.mpr Int.one_nonneg)
  obtain ⟨hshaped, herror⟩ := ofValue_of_violations hnames hviolations
  exact ⟨hnames, hviolations, hshaped.mpr hword, hword, fun h => (herror []).mp h hword⟩

/-- A text of such a document is refused as malformed exactly when one of its counts is no such
integer. -/
theorem ofText_document_iff {text : String} {value : Value} (hread : Value.ofText text = .ok value)
    (h : violations value = []) :
    (∃ e, ofText text = .error (.document text.toList e)) ↔ ¬IsDocument Number.IsWord value := by
  have hnames : value.DistinctNames := Value.distinctNames_of_ofText hread
  have hshaped := exists_ofShapedValue_iff (violations_document_iff.mp h) hnames
  unfold ofText
  rw [hread]
  exact (ofValue_document_iff h).trans (not_congr hshaped)

/-- The column `1.0` is a whole number for the schema and none for the reader. -/
theorem ofValue_fractionalColumn :
    let document := columnDocument (.real .one)
    document.DistinctNames ∧ violations document = [] ∧
      (¬∃ catalog, ofShapedValue document = .ok catalog) ∧
      ∃ e, ofValue [] document = .error (.document [] e) := by
  intro document
  have hnames : document.DistinctNames := distinctNames_columnDocument _
  have hnatural : Number.IsNatural (.real .one) :=
    (isNatural_iff _).mpr ⟨by decide +kernel, by decide +kernel⟩
  have hdocument : IsDocument Number.IsNatural document :=
    isDocument_columnDocument_iff.mpr hnatural
  have hviolations : violations document = [] := violations_document_iff.mpr hdocument
  have hshaped : ¬∃ catalog, ofShapedValue document = .ok catalog := by
    rw [exists_ofShapedValue_iff hdocument hnames, isDocument_columnDocument_iff]
    exact id
  exact ⟨hnames, hviolations, hshaped, (ofValue_document_iff hviolations).mpr hshaped⟩

end Catalog

end BankStatement
