import BankStatement.Proofs.Catalog.Reload
import BankStatement.Proofs.Format.RequiredColumns

/-!
# Catalogs with other columns

Loading a catalog checks that columns are 64-bit numbers and looks at them no further.  So any
columns may stand in place of those of a loaded catalog, and it is loaded still
(`Catalog.Storable.mapColumns`).

How many columns a row needs is one more than the greatest column that is read.  That is a 64-bit
number unless the last column is read, the one after which there is no number, and a loaded catalog
may well read it.  So a loaded catalog leaves open whether its formats have such a number, and what
is known of it is what is known of every format: there is none exactly when the last column is read,
and otherwise it is the least number above all columns that are read
(`Catalog.requiredColumns_of_ofText`).

## Strategy

That a catalog can be stored is what loading it from its saved text needs (`Catalog.Storable`), so
each part of this is shown not to depend on columns: that rules can be held by a document, how deep
they are nested, and the check of a format.
-/

namespace BankStatement

open Json (Value)

/-! ## Rules with other columns -/

namespace Rule

mutual

/-- The rule with other columns in place of its own, at any depth. -/
def mapColumns (f : UInt64 → UInt64) : Rule → Rule
  | column index multiplier pattern => column (f index) multiplier pattern
  | sum parts => sum (mapColumnsOf f parts)

def mapColumnsOf (f : UInt64 → UInt64) : List Rule → List Rule
  | [] => []
  | part :: rest => part.mapColumns f :: mapColumnsOf f rest

end

variable (f : UInt64 → UInt64)

mutual

theorem columns_mapColumns : ∀ rule : Rule, (rule.mapColumns f).columns = rule.columns.map f
  | column _ _ _ => rfl
  | sum parts => columnsOf_mapColumnsOf parts

theorem columnsOf_mapColumnsOf : ∀ parts : List Rule,
    columnsOf (mapColumnsOf f parts) = (columnsOf parts).map f
  | [] => rfl
  | part :: rest => by
      rw [mapColumnsOf, columnsOf, columnsOf, List.map_append, columns_mapColumns part,
        columnsOf_mapColumnsOf rest]

end

theorem isColumn_mapColumns (rule : Rule) : (rule.mapColumns f).isColumn = rule.isColumn := by
  cases rule <;> rfl

mutual

theorem Storable.mapColumns : ∀ {rule : Rule}, rule.Storable → (rule.mapColumns f).Storable
  | column _ _ _, h => h
  | sum (_ :: _), ⟨_, hparts⟩ => ⟨List.cons_ne_nil _ _, storableParts_mapColumnsOf hparts⟩
  | sum [], ⟨hne, _⟩ => absurd rfl hne

theorem storableParts_mapColumnsOf : ∀ {parts : List Rule}, storableParts parts →
    storableParts (mapColumnsOf f parts)
  | [], _ => trivial
  | _ :: _, ⟨hpart, hrest⟩ => ⟨Storable.mapColumns hpart, storableParts_mapColumnsOf hrest⟩

end

mutual

theorem nesting_mapColumns : ∀ rule : Rule,
    (rule.mapColumns f).toValue.nesting = rule.toValue.nesting
  | column index multiplier pattern => by rw [mapColumns, nesting_column, nesting_column]
  | sum [] => rfl
  | sum (part :: rest) => by
      have hparts := nestingOfItems_mapColumnsOf (part :: rest)
      rw [mapColumnsOf] at hparts
      rw [mapColumns, mapColumnsOf, nesting_sum (List.cons_ne_nil _ _),
        nesting_sum (List.cons_ne_nil _ _), hparts]

theorem nestingOfItems_mapColumnsOf : ∀ parts : List Rule,
    Value.nestingOfItems ((mapColumnsOf f parts).map toValue) =
      Value.nestingOfItems (parts.map toValue)
  | [] => rfl
  | part :: rest => by
      rw [mapColumnsOf, List.map_cons, List.map_cons, Value.nestingOfItems, Value.nestingOfItems,
        nesting_mapColumns part, nestingOfItems_mapColumnsOf rest]

end

end Rule

/-! ## Formats with other columns -/

/-- The rules with other columns in place of their own. -/
def FieldRules.mapColumns (f : UInt64 → UInt64) (rules : FieldRules) : FieldRules where
  trntype := rules.trntype.mapColumns f
  dtposted := rules.dtposted.mapColumns f
  dtuser := rules.dtuser.mapColumns f
  trnamt := rules.trnamt.mapColumns f
  memo := rules.memo.mapColumns f
  ftid := rules.ftid.mapColumns f

theorem FieldRules.named_mapColumns (f : UInt64 → UInt64) (rules : FieldRules) :
    (rules.mapColumns f).named =
      rules.named.map fun field => (field.1, field.2.mapColumns f) :=
  rfl

theorem FieldRules.nesting_mapColumns_le {f : UInt64 → UInt64} {rules : FieldRules} {depth : Nat} :
    (rules.mapColumns f).toValue.nesting ≤ depth + 1 ↔ rules.toValue.nesting ≤ depth + 1 := by
  simp only [nesting_toValue_le, named_mapColumns, List.forall_mem_map, Rule.nesting_mapColumns]

namespace Format

/-- The format with other columns in place of its own. -/
def mapColumns (f : UInt64 → UInt64) (format : Format) : Format :=
  { format with fields := format.fields.mapColumns f }

variable (f : UInt64 → UInt64) (format : Format)

theorem columnsOf_readRules_mapColumns :
    Rule.columnsOf (format.mapColumns f).readRules = (Rule.columnsOf format.readRules).map f :=
  Rule.columnsOf_mapColumnsOf f format.readRules

/-- What is checked of a format has nothing to do with its columns. -/
theorem check_mapColumns : (format.mapColumns f).check = format.check := by
  have hsum : (format.mapColumns f).sumField? = format.sumField? := by
    have hnamed : (format.mapColumns f).fields.named =
        format.fields.named.map fun field => (field.1, field.2.mapColumns f) :=
      FieldRules.named_mapColumns f format.fields
    simp only [sumField?, hnamed, List.find?_map, Function.comp_def, Rule.isColumn_mapColumns,
      Option.map_map]
  have hdialect : (format.mapColumns f).dialect = format.dialect := rfl
  unfold check
  rw [hsum, hdialect]

variable {format}

theorem Storable.mapColumns (h : format.Storable) : (format.mapColumns f).Storable where
  name := h.name
  check := (check_mapColumns f format).trans h.check
  fields := by
    show ∀ field ∈ (format.fields.mapColumns f).named, field.2.Storable
    rw [FieldRules.named_mapColumns, List.forall_mem_map]
    exact fun field hfield => (h.fields field hfield).mapColumns f

/-- Every format that passed its check reads some column. -/
theorem columnsOf_readRules_ne_nil (h : format.check = .ok ()) :
    Rule.columnsOf format.readRules ≠ [] := by
  obtain ⟨hposted, _, _⟩ := readsColumns_of_check h
  cases hrule : format.fields.dtposted with
  | column index multiplier pattern =>
      simp [readRules, hrule, Rule.columnsOf, Rule.columns]
  | sum parts => simp [hrule, Rule.isColumn] at hposted

end Format

/-! ## Catalogs with other columns -/

namespace Catalog

/-- The catalog with other columns in place of its own. -/
def mapColumns (f : UInt64 → UInt64) (catalog : Catalog) : Catalog :=
  ⟨catalog.formats.map (·.mapColumns f)⟩

/-- **Columns do not matter for loading.**  A catalog that can be stored can be stored with any
columns. -/
theorem Storable.mapColumns (f : UInt64 → UInt64) {catalog : Catalog} (h : catalog.Storable) :
    (catalog.mapColumns f).Storable where
  formats := List.forall_mem_map.mpr fun format hformat => (h.formats format hformat).mapColumns f
  nesting := by
    have hnesting : catalog.toValue.nesting ≤ 123 + 1 + 1 + 2 := h.nesting
    show (catalog.mapColumns f).toValue.nesting ≤ 123 + 1 + 1 + 2
    rw [nesting_toValue_le] at hnesting ⊢
    refine List.forall_mem_map.mpr fun format hformat => ?_
    have hfields := hnesting format hformat
    rw [Format.nesting_toValue, Nat.add_le_add_iff_right] at hfields ⊢
    exact FieldRules.nesting_mapColumns_le.mpr hfields

/-- **How many columns the formats of a loaded catalog need.**  There is no such number exactly when
a rule that is read refers, at any depth, to the last of all columns; otherwise it is above all
columns that these rules refer to, and the least number that is.  Loading does not rule out either:
with any columns in place of its own, the catalog is loaded from its saved text, and when each of
them is the last one, none of its formats has such a number. -/
theorem requiredColumns_of_ofText {text : String} {catalog : Catalog}
    (h : ofText text = .ok catalog) :
    (∀ format ∈ catalog.formats,
      (format.requiredColumns? = none ↔
        ∃ index ∈ Rule.columnsOf format.readRules, index.toNat = 2 ^ 64 - 1) ∧
      ∀ required, format.requiredColumns? = some required → ∀ n,
        required.toNat ≤ n ↔ ∀ index ∈ Rule.columnsOf format.readRules, index.toNat < n) ∧
    ∀ f : UInt64 → UInt64, ofText (catalog.mapColumns f).toText = .ok (catalog.mapColumns f) ∧
      ((∀ index, (f index).toNat = 2 ^ 64 - 1) →
        ∀ format ∈ (catalog.mapColumns f).formats, format.requiredColumns? = none) := by
  refine ⟨fun format _ => ⟨Format.requiredColumns?_eq_none_iff, fun required hrequired =>
    Format.toNat_le_iff_of_requiredColumns hrequired⟩, fun f =>
    ⟨ofText_of_storable ((storable_of_ofText h).mapColumns f), fun hlast => ?_⟩⟩
  refine List.forall_mem_map.mpr fun format hformat => ?_
  obtain ⟨index, hindex⟩ := List.exists_mem_of_ne_nil _
    (Format.columnsOf_readRules_ne_nil (check_of_ofText h format hformat))
  rw [Format.requiredColumns?_eq_none_iff, Format.columnsOf_readRules_mapColumns]
  exact ⟨f index, List.mem_map_of_mem hindex, hlast index⟩

/-- The example catalog, whose greatest column is the fifth. -/
theorem requiredColumns_of_ofText_exampleFormat :
    let catalog : Catalog := ⟨[Format.exampleFormat]⟩
    ofText catalog.toText = .ok catalog ∧ Format.exampleFormat.requiredColumns? = some 5 ∧
      ofText (catalog.mapColumns fun _ => 7).toText = .ok (catalog.mapColumns fun _ => 7) := by
  intro catalog
  have hload := ofText_of_storable storable_exampleFormat
  exact ⟨hload, by decide, ((requiredColumns_of_ofText hload).2 fun _ => 7).1⟩

/-- A loaded catalog with a format that reads the last column, for which no number is above its
columns. -/
theorem requiredColumns_of_lastColumn :
    let catalog : Catalog := mapColumns (fun _ => 18446744073709551615) ⟨[Format.exampleFormat]⟩
    ofText catalog.toText = .ok catalog ∧
      ∃ format ∈ catalog.formats, format.requiredColumns? = none := by
  intro catalog
  exact ⟨ofText_of_storable (storable_exampleFormat.mapColumns _), _, List.mem_singleton_self _,
    by decide⟩

end Catalog

end BankStatement
