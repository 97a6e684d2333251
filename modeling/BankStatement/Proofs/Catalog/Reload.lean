import BankStatement.Catalog.Basic
import BankStatement.Proofs.Catalog.Shape
import BankStatement.Proofs.Json.Scanning

/-!
# Saving and loading catalogs

A catalog that a document can hold is loaded from its saved text as it was, and only such catalogs
are loaded (`ofText_toText`).

Loading goes through four stages, and each is met by a lemma of its own: the text is read as a value
(`Value.ofText_toIndentedText`), the value matches the schema (`violations_toValue`), it is read as
a catalog (`ofShapedValue_toValue`), and every format can be used (`firstFault?_eq_none`).  For the
other way, only the names come from the schema (`name_of_ofTree`); the reader of rules does not make
any that documents cannot hold.
-/

namespace BankStatement.Catalog

open Json (Value Tree)

/-- A catalog that a document can hold, and of which every format can be used. -/
structure Storable (catalog : Catalog) : Prop where
  formats : ∀ format ∈ catalog.formats, format.Storable
  nesting : catalog.toValue.nesting ≤ Json.nestingLimit

/-! ## Checks of all formats -/

theorem firstFault?_cons (format : Format) (rest : List Format) :
    firstFault? (format :: rest) =
      match format.check with
      | .error fault => some (format, fault)
      | .ok _ => firstFault? rest := by
  rfl

theorem firstFault?_eq_none {formats : List Format} :
    firstFault? formats = none ↔ ∀ format ∈ formats, format.check = .ok () := by
  induction formats with
  | nil => exact iff_of_true rfl (List.forall_mem_nil _)
  | cons format rest ih =>
      rw [firstFault?_cons, List.forall_mem_cons]
      cases hcheck : format.check with
      | error fault => simp
      | ok passed => simpa using ih

/-- What a text has to go through to become a catalog. -/
theorem of_ofText {text : String} {catalog : Catalog} (h : ofText text = .ok catalog) :
    ∃ value, Value.ofText text = .ok value ∧ violations value = [] ∧
      ofShapedValue value = .ok catalog ∧ firstFault? catalog.formats = none := by
  unfold ofText at h
  split at h
  · cases h
  · rename_i value hvalue
    refine ⟨value, hvalue, ?_⟩
    unfold ofValue at h
    split at h
    · cases h
    · rename_i hviolations
      split at h
      · cases h
      · rename_i shaped hshaped
        split at h
        · cases h
        · rename_i hfault
          cases h
          exact ⟨hviolations, hshaped, hfault⟩

theorem check_of_ofText {text : String} {catalog : Catalog} (h : ofText text = .ok catalog) :
    ∀ format ∈ catalog.formats, format.check = .ok () := by
  obtain ⟨_, _, _, _, hfault⟩ := of_ofText h
  exact firstFault?_eq_none.mp hfault

/-! ## Saved catalogs -/

theorem nesting_toValue_le {catalog : Catalog} {depth : Nat} :
    catalog.toValue.nesting ≤ depth + 2 ↔
      ∀ format ∈ catalog.formats, format.toValue.nesting ≤ depth := by
  simp only [toValue, Value.nesting, Value.nestingOfMembers, Nat.max_zero, Nat.add_le_add_iff_right,
    Value.nestingOfItems_le, List.forall_mem_map]

theorem fits_toValue {catalog : Catalog} (h : catalog.Storable) : catalog.toValue.Fits := by
  have hitems : Value.fitsItems (catalog.formats.map Format.toValue) := by
    rw [Value.fitsItems_iff, List.forall_mem_map]
    exact fun format hformat => Format.fits_toValue (h.formats format hformat).fields
  exact ⟨hitems, trivial⟩

theorem sorted_toValue (catalog : Catalog) :
    catalog.toValue.sorted =
      .object [("format", .array (catalog.formats.map fun format => format.toValue.sorted))] := by
  rw [toValue, Value.sorted, Value.sortMembers, Value.sorted, Value.sortedItems_eq_map,
    List.map_map]
  rfl

/-- A saved catalog matches the schema. -/
theorem violations_toValue {catalog : Catalog} (h : catalog.Storable) :
    violations catalog.toValue.sorted = [] := by
  have hformats : ∀ item ∈ catalog.formats.map fun format => format.toValue.sorted,
      Json.Schema.violations definitions (.reference "format") item = [] := by
    intro item hitem
    obtain ⟨format, hformat, rfl⟩ := List.mem_map.mp hitem
    exact violations_format (h.formats format hformat).name (h.formats format hformat).fields
  rw [sorted_toValue]
  apply violations_object rfl
  simp only [List.forall_mem_cons]
  exact ⟨violations_array rfl rfl hformats, by simp⟩

theorem nesting_sorted {catalog : Catalog} (h : catalog.Storable) :
    catalog.toValue.sorted.nesting = catalog.toValue.nesting := by
  have hitems : ∀ format ∈ catalog.formats, format.toValue.nesting ≤
      Value.nestingOfItems (catalog.formats.map fun format => format.toValue.sorted) := by
    intro format hformat
    rw [← Format.nesting_sorted (h.formats format hformat).fields]
    exact Value.nestingOfItems_le.mp (Nat.le_refl _) _ (List.mem_map.mpr ⟨format, hformat, rfl⟩)
  apply Nat.le_antisymm (Value.nesting_sorted_le _)
  rw [sorted_toValue]
  simpa [Value.nesting, Value.nestingOfMembers] using nesting_toValue_le.mpr hitems

/-- A saved catalog has values in the range of their types, and as many containers may be entered as
are nested in it. -/
theorem ofShapedValue_toValue {catalog : Catalog} (h : catalog.Storable) :
    ofShapedValue catalog.toValue.sorted = .ok catalog := by
  have hnesting := nesting_sorted h
  obtain ⟨depth, hdepth⟩ : ∃ depth, catalog.toValue.nesting = depth + 2 := ⟨_, rfl⟩
  have hformats := nesting_toValue_le.mp (Nat.le_of_eq hdepth)
  have hread : ∀ {formats : List Format}, (∀ format ∈ formats, format.Storable) →
      (∀ format ∈ formats, format.toValue.nesting ≤ depth) →
      List.Forall₂ (fun value format => Format.ofTree depth (.ofValue value) = .ok format)
        (formats.map fun format => format.toValue.sorted) formats := by
    intro formats hstorable hnested
    induction formats with
    | nil => exact .nil
    | cons format rest ih =>
        obtain ⟨hformat, hrest⟩ := List.forall_mem_cons.mp hstorable
        obtain ⟨hformatNested, hrestNested⟩ := List.forall_mem_cons.mp hnested
        exact .cons (Format.ofTree_toValue hformat.fields hformatNested) (ih hrest hrestNested)
  have hlist : Json.list (depth + 1) (Format.ofTree depth)
      (.ofValue (.array (catalog.formats.map fun format => format.toValue.sorted))) =
      .ok catalog.formats := Json.list_array (Nat.succ_pos _) (hread h.formats hformats)
  have hmembers : (shape (depth + 1)).readMembers ⟨[]⟩ [] (.ofMembers
      [("format", .array (catalog.formats.map fun format => format.toValue.sorted))]) =
      .ok (catalog, ["format"]) := by
    rw [Json.RecordShape.readMembers_cons rfl rfl (Json.Slot.read_of hlist _)]
    rfl
  unfold ofShapedValue
  rw [hnesting, hdepth, sorted_toValue]
  exact Json.RecordShape.read_object (Nat.succ_pos _) hmembers rfl

/-- A saved catalog is loaded back. -/
theorem ofText_of_storable {catalog : Catalog} (h : catalog.Storable) :
    ofText catalog.toText = .ok catalog := by
  have hvalue : Value.ofText catalog.toText = .ok catalog.toValue.sorted :=
    Value.ofText_toIndentedText (fits_toValue h) h.nesting
  have hfault : firstFault? catalog.formats = none :=
    firstFault?_eq_none.mpr fun format hformat => (h.formats format hformat).check
  unfold ofText ofValue
  simp only [hvalue, violations_toValue h, ofShapedValue_toValue h, hfault]

/-! ## Loaded catalogs -/

/-- The name of a format that is read from a value without violations is not empty. -/
theorem name_of_ofTree {depth : Nat} {value : Value}
    (hviolations : formatSchema.violations definitions value = []) {format : Format}
    (h : Format.ofTree depth (.ofValue value) = .ok format) : format.name ≠ "" := by
  obtain ⟨members, rfl, hname⟩ := name_of_violations hviolations
  -- once the name was met, it is that of the format
  have hstep : ∀ name value, (name, value) ∈ members →
      ∀ slot ∈ (Format.shape (depth - 1)).slots, slot.name = name →
      ∀ (record : Format) (seen : List String) (next : Format),
        (seen.contains "name" = true → record.name ≠ "") →
        slot.read (.ofValue value) record = .ok next →
        (name :: seen).contains "name" = true → next.name ≠ "" := by
    intro name value hmem slot hslot hslotName record seen next hrecord hread hseen
    simp only [Format.shape, List.mem_cons, List.not_mem_nil, or_false] at hslot
    rcases hslot with rfl | rfl | rfl | rfl | rfl | rfl | rfl
    case inl =>
      obtain ⟨text, htext, rfl⟩ := Json.Slot.of_read hread
      obtain rfl := Json.text_eq_ok htext
      obtain rfl := hslotName
      exact hname text hmem
    all_goals
      obtain ⟨_, _, rfl⟩ := Json.Slot.of_read hread
      obtain rfl := hslotName
      rw [List.contains_cons, Bool.or_eq_true] at hseen
      rcases hseen with hsame | hseen
      · exact absurd hsame Bool.false_ne_true
      · exact hrecord hseen
  obtain ⟨_, seen, hformat, hmissing⟩ :=
    Json.RecordShape.of_read_object (fun hseen => by cases hseen) hstep h
  -- a format without a name is not read
  exact hformat (Json.RecordShape.contains_of_missing? hmissing (List.mem_cons_self ..) rfl)

/-- A format as a document gives it: its check is still to come. -/
structure Given (format : Format) : Prop where
  name : format.name ≠ ""
  fields : format.fields.Storable
  nesting : format.toValue.nesting + 2 ≤ Json.nestingLimit

/-- The formats that are read from a value without violations. -/
theorem given_of_ofShapedValue {value : Value} (hfits : value.Fits)
    (hdepth : value.nesting ≤ Json.nestingLimit) (hviolations : violations value = [])
    {catalog : Catalog} (h : ofShapedValue value = .ok catalog) :
    ∀ format ∈ catalog.formats, Given format := by
  obtain ⟨members, rfl, hformats⟩ := formats_of_violations hviolations
  have hstep : ∀ name value, (name, value) ∈ members →
      ∀ slot ∈ (shape ((Value.object members).nesting - 1)).slots, slot.name = name →
      ∀ (record : Catalog) (seen : List String) (next : Catalog),
        (∀ format ∈ record.formats, Given format) →
        slot.read (.ofValue value) record = .ok next → ∀ format ∈ next.formats, Given format := by
    intro name value hmem slot hslot hslotName record seen next _ hread
    simp only [shape, List.mem_singleton] at hslot
    subst hslot
    obtain ⟨formats, hlist, rfl⟩ := Json.Slot.of_read hread
    obtain rfl := hslotName
    obtain ⟨_, items, rfl, hitems⟩ := Json.list_eq_ok hlist
    intro format hformat
    obtain ⟨item, hitem, hreadFormat⟩ := Json.exists_read_of_mem hitems hformat
    have hitemFits : item.Fits := Value.fitsItems_iff.mp
      (Value.fits_of_mem_parts hfits _ (List.mem_map.mpr ⟨_, hmem, rfl⟩)) item hitem
    obtain ⟨hfields, hnesting⟩ := Format.of_ofTree hitemFits hreadFormat
    refine ⟨name_of_ofTree (hformats items hmem item hitem) hreadFormat, hfields, ?_⟩
    unfold Json.nestingLimit at hdepth ⊢
    omega
  obtain ⟨_, _, hread, _⟩ := Json.RecordShape.of_read_object
    (P := fun record _ => ∀ format ∈ record.formats, Given format)
    (fun format hformat => by cases hformat) hstep h
  exact hread

/-- A loaded catalog can be stored: its formats have names and can be used, their rules are such
that documents can hold them, and its document is not nested too deep. -/
theorem storable_of_ofText {text : String} {catalog : Catalog} (h : ofText text = .ok catalog) :
    catalog.Storable := by
  obtain ⟨value, hvalue, hviolations, hshaped, hfault⟩ := of_ofText h
  obtain ⟨hfits, hdepth⟩ := Value.of_ofText hvalue
  have hgiven := given_of_ofShapedValue hfits hdepth hviolations hshaped
  constructor
  · intro format hformat
    obtain ⟨hname, hfields, _⟩ := hgiven format hformat
    exact ⟨hname, firstFault?_eq_none.mp hfault format hformat, hfields⟩
  · have hnested : ∀ format ∈ catalog.formats, format.toValue.nesting ≤ 125 := by
      intro format hformat
      exact Nat.le_of_add_le_add_right (hgiven format hformat).nesting
    exact nesting_toValue_le.mpr hnested

/-! ## Saving and loading -/

/-- **Catalogs survive their documents.**  A catalog that can be stored is loaded back from its
saved text as it was, and only such catalogs are loaded, from whatever text.  So saving a loaded
catalog and loading it again changes nothing. -/
theorem ofText_toText :
    (∀ catalog : Catalog, catalog.Storable → ofText catalog.toText = .ok catalog) ∧
      ∀ (text : String) (catalog : Catalog), ofText text = .ok catalog →
        catalog.Storable ∧ ofText catalog.toText = .ok catalog := by
  refine ⟨fun catalog h => ofText_of_storable h, fun text catalog h => ?_⟩
  have hstorable := storable_of_ofText h
  exact ⟨hstorable, ofText_of_storable hstorable⟩

theorem storable_exampleFormat : Storable ⟨[Format.exampleFormat]⟩ := by
  have hminus : (Binary64.ofInt (-1)).isFinite = true := by decide +kernel
  have hnone : ∀ date ∈ (none : Option DatePattern), date.source ≠ "" := fun date hdate => by
    cases hdate
  have hsome : ∀ date ∈ some (⟨"%d.%m.%Y"⟩ : DatePattern), date.source ≠ "" := by
    rintro date ⟨⟩
    decide
  refine ⟨?_, by decide +kernel⟩
  intro format hformat
  obtain rfl := List.mem_singleton.mp hformat
  refine ⟨by decide, rfl, ?_⟩
  intro field hfield
  simp only [Format.exampleFormat, FieldRules.named, List.mem_cons, List.not_mem_nil, or_false]
    at hfield
  rcases hfield with rfl | rfl | rfl | rfl | rfl | rfl
  · exact ⟨Binary64.isFinite_one, hnone⟩
  · exact ⟨Binary64.isFinite_one, hsome⟩
  · exact ⟨Binary64.isFinite_one, hsome⟩
  · exact ⟨by decide, ⟨hminus, hnone⟩, ⟨Binary64.isFinite_one, hnone⟩, trivial⟩
  · exact ⟨Binary64.isFinite_one, hnone⟩
  · exact ⟨Binary64.isFinite_one, hnone⟩

theorem ofText_toText_exampleFormat :
    let catalog : Catalog := ⟨[Format.exampleFormat]⟩
    catalog.Storable ∧ ofText catalog.toText = .ok catalog ∧
      ofText "\x7b\x7d" = .ok ⟨[]⟩ ∧ Storable ⟨[]⟩ := by
  intro catalog
  have hempty : ofText "\x7b\x7d" = .ok ⟨[]⟩ := rfl
  exact ⟨storable_exampleFormat, ofText_toText.1 catalog storable_exampleFormat, hempty,
    (ofText_toText.2 _ _ hempty).1⟩

end BankStatement.Catalog
