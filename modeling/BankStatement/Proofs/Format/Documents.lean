import BankStatement.Format.Check
import BankStatement.Format.Document
import BankStatement.Proofs.Json.Records

/-!
# Rules and formats in documents

Every rule, record of rules and format is written as a value and read from one.  A document does not
hold all of them: an empty sum is read as a column, an empty date pattern as none, and a multiplier
that is not a number is written as `null`.  `Rule.Storable` says that none of these is in a rule,
and then what is written is read back (`Rule.ofTree_toValue`, `FieldRules.ofTree_toValue`,
`Format.ofTree_toValue`).

The other way, whatever value a rule is read from, the rule is storable, and writes a value that is
nested no deeper than the containers that were entered to read it (`Rule.of_ofTree`,
`FieldRules.of_ofTree`, `Format.of_ofTree`).

## Strategy

A saved text is read with the members of its objects in the order of their names, so what is read
back is `toValue.sorted`; one lemma for each type (`sorted_toValue`) says what that is.  Sums hold
rules, so the lemmas on rules come in pairs, for a rule and for the parts of a sum.
-/

namespace BankStatement

open Json (Value Tree)

/-! ## What documents can hold of rules -/

namespace Rule

mutual

/-- A rule that a document can hold: its multipliers are finite, and no sum and no date pattern in
it is empty. -/
def Storable : Rule → Prop
  | column _ multiplier pattern =>
      multiplier.isFinite = true ∧ ∀ date ∈ pattern, date.source ≠ ""
  | sum parts => parts ≠ [] ∧ storableParts parts

def storableParts : List Rule → Prop
  | [] => True
  | part :: rest => part.Storable ∧ storableParts rest

end

theorem storableParts_iff {parts : List Rule} :
    storableParts parts ↔ ∀ part ∈ parts, part.Storable := by
  induction parts with
  | nil => simp [storableParts]
  | cons part rest ih => rw [storableParts, ih, List.forall_mem_cons]

theorem toValues_eq_map (parts : List Rule) : toValues parts = parts.map toValue := by
  induction parts with
  | nil => rfl
  | cons part rest ih => rw [toValues, ih, List.map_cons]

theorem nesting_column (index : UInt64) (multiplier : Binary64) (pattern : Option DatePattern) :
    (column index multiplier pattern).toValue.nesting = 1 := by
  cases pattern <;>
    simp [toValue, Value.nesting, Value.nestingOfMembers, Value.natural, Value.nesting_ofBinary64]

theorem nesting_sum {parts : List Rule} (h : parts ≠ []) :
    (sum parts).toValue.nesting = Value.nestingOfItems (parts.map toValue) + 2 := by
  cases parts with
  | nil => exact absurd rfl h
  | cons part rest =>
      simp [toValue, Value.nesting, Value.nestingOfMembers, Value.natural, Value.nesting_ofBinary64,
        toValues_eq_map]

end Rule

/-! ## Rules that are read -/

namespace RuleEntry

/-- An entry of which a rule can be made that a document can hold, with no more than `depth`
containers in each other. -/
structure Held (depth : Nat) (entry : RuleEntry) : Prop where
  multiplier : entry.multiplier.isFinite = true
  parts : ∀ part ∈ entry.sum, part.Storable ∧ part.toValue.nesting + 2 ≤ depth

theorem held_blank (depth : Nat) : Held depth blank :=
  ⟨Binary64.isFinite_one, fun part hpart => by cases hpart⟩

/-- Every slot of an entry keeps it so, whatever it reads. -/
theorem Held.read {parts : Json.Reader (List Rule)} {depth : Nat} {value : Value}
    (hfits : value.Fits)
    (hparts : ∀ rules, parts (.ofValue value) = .ok rules →
      ∀ rule ∈ rules, rule.Storable ∧ rule.toValue.nesting + 2 ≤ depth)
    {entry next : RuleEntry} (hheld : Held depth entry) :
    ∀ slot ∈ (shape parts).slots, slot.read (.ofValue value) entry = .ok next →
      Held depth next := by
  intro slot hslot h
  simp only [shape, List.mem_cons, List.not_mem_nil, or_false] at hslot
  rcases hslot with rfl | rfl | rfl | rfl
  · obtain ⟨field, _, rfl⟩ := Json.Slot.of_read h
    exact ⟨hheld.multiplier, hheld.parts⟩
  · obtain ⟨dateformat, _, rfl⟩ := Json.Slot.of_read h
    exact ⟨hheld.multiplier, hheld.parts⟩
  · obtain ⟨sum, hsum, rfl⟩ := Json.Slot.of_read h
    exact ⟨hheld.multiplier, hparts sum hsum⟩
  · obtain ⟨multiplier, hmultiplier, rfl⟩ := Json.Slot.of_read h
    exact ⟨Json.isFinite_of_real hfits hmultiplier, hheld.parts⟩

theorem Held.toRule {depth : Nat} (hdepth : 0 < depth) {entry : RuleEntry}
    (hheld : Held depth entry) : entry.toRule.Storable ∧ entry.toRule.toValue.nesting ≤ depth := by
  unfold RuleEntry.toRule
  split
  · refine ⟨⟨hheld.multiplier, ?_⟩, by rw [Rule.nesting_column]; exact hdepth⟩
    -- an empty date pattern is none
    intro date hdate
    split at hdate
    · split at hdate
      · cases hdate
      · rename_i source _ hsource
        cases hdate
        intro hempty
        have hempty : source = "" := hempty
        rw [hempty] at hsource
        exact hsource rfl
    · cases hdate
  · rename_i hsum
    have hparts := hheld.parts
    have hne : entry.sum ≠ [] := hsum
    obtain ⟨part, hpart⟩ := List.exists_mem_of_ne_nil _ hne
    have hdeep := (hparts part hpart).2
    refine ⟨⟨hne, Rule.storableParts_iff.mpr fun part hpart => (hparts part hpart).1⟩, ?_⟩
    have hnesting : Value.nestingOfItems (entry.sum.map Rule.toValue) ≤ depth - 2 := by
      rw [Value.nestingOfItems_le]
      intro value hvalue
      obtain ⟨part, hpart, rfl⟩ := List.mem_map.mp hvalue
      have := (hparts part hpart).2
      omega
    rw [Rule.nesting_sum hne]
    omega

end RuleEntry

namespace Rule

/-- The reader of the parts of a rule, where `depth` containers may be entered outside the rule. -/
def ofPart : (depth : Nat) → Json.Reader Rule
  | 0 | 1 => refuse
  | depth + 2 => ofTree depth

theorem ofTree_eq (depth : Nat) (tree : Tree) :
    ofTree depth tree =
      ((RuleEntry.shape (Json.list (depth - 1) (ofPart depth))).read depth tree).map
        RuleEntry.toRule := by
  match depth with
  | 0 | 1 | _ + 2 => rfl

/-- A rule that is read is one that documents can hold, and writes a value that is nested no deeper
than the containers that may be entered. -/
theorem of_ofTree {depth : Nat} {value : Value} (hfits : value.Fits) {rule : Rule}
    (h : ofTree depth (.ofValue value) = .ok rule) :
    rule.Storable ∧ rule.toValue.nesting ≤ depth := by
  induction depth using Nat.strongRecOn generalizing value rule with
  | ind depth ih =>
      have hparts : ∀ part ∈ value.parts, ∀ rules,
          Json.list (depth - 1) (ofPart depth) (.ofValue part) = .ok rules →
          ∀ rule ∈ rules, rule.Storable ∧ rule.toValue.nesting + 2 ≤ depth := by
        intro part hpart rules hlist rule hrule
        obtain ⟨_, values, rfl, hvalues⟩ := Json.list_eq_ok hlist
        obtain ⟨item, hitem, hread⟩ := Json.exists_read_of_mem hvalues hrule
        have hitemFits : item.Fits :=
          Value.fitsItems_iff.mp (Value.fits_of_mem_parts hfits _ hpart) item hitem
        match depth, hread with
        | 0, hread => cases hread
        | 1, hread => cases hread
        | depth + 2, hread =>
            obtain ⟨hstorable, hnesting⟩ := ih depth (by omega) hitemFits hread
            exact ⟨hstorable, by omega⟩
      rw [ofTree_eq] at h
      cases hentry : (RuleEntry.shape (Json.list (depth - 1) (ofPart depth))).read depth
          (.ofValue value) with
      | error e =>
          rw [hentry] at h
          cases h
      | ok entry =>
          rw [hentry] at h
          cases h
          obtain ⟨hdepth, hheld⟩ := Json.RecordShape.of_read (RuleEntry.held_blank depth)
            (fun part hpart slot hslot record next hrecord hread =>
              RuleEntry.Held.read (Value.fits_of_mem_parts hfits part hpart) (hparts part hpart)
                hrecord slot hslot hread) hentry
          exact hheld.toRule hdepth

/-! ### Rules that are written -/

mutual

/-- The numbers of a rule that a document can hold are numbers that documents can hold. -/
theorem fits_toValue : ∀ {rule : Rule}, rule.Storable → rule.toValue.Fits
  | column index _ none, ⟨hfinite, _⟩ => by
      rw [toValue, Value.ofBinary64_of_isFinite hfinite]
      exact ⟨Value.fits_natural index, hfinite, trivial⟩
  | column index _ (some _), ⟨hfinite, _⟩ => by
      rw [toValue, Value.ofBinary64_of_isFinite hfinite]
      exact ⟨Value.fits_natural index, trivial, hfinite, trivial⟩
  | sum (part :: rest), ⟨_, hparts⟩ => by
      rw [toValue, Value.ofBinary64_of_isFinite Binary64.isFinite_one]
      exact ⟨Value.fits_natural 0, fits_toValues hparts, Binary64.isFinite_one, trivial⟩
  | sum [], ⟨hne, _⟩ => absurd rfl hne

theorem fits_toValues :
    ∀ {parts : List Rule}, storableParts parts → Value.fitsItems (toValues parts)
  | [], _ => trivial
  | _ :: _, ⟨hpart, hrest⟩ => ⟨fits_toValue hpart, fits_toValues hrest⟩

end

theorem sorted_column (index : UInt64) (multiplier : Binary64) (pattern : Option DatePattern) :
    (column index multiplier pattern).toValue.sorted =
      .object ((match pattern with
        | some date => [("dateformat", .string date.source)]
        | none => []) ++
        [("field", .natural index.toNat), ("multiplier", .ofBinary64 multiplier)]) := by
  cases pattern <;>
    simp +decide [toValue, Value.sorted_ofBinary64, Value.sorted, Value.sortMembers,
      Value.insertMember, Value.natural]

theorem sorted_sum {parts : List Rule} (h : parts ≠ []) :
    (sum parts).toValue.sorted =
      .object [("field", .natural 0), ("multiplier", .ofBinary64 .one),
        ("sum", .array (Value.sortedItems (parts.map toValue)))] := by
  cases parts with
  | nil => exact absurd rfl h
  | cons part rest =>
      rw [toValue, toValues_eq_map]
      simp +decide [Value.sorted_ofBinary64, Value.sorted, Value.sortMembers, Value.insertMember,
        Value.natural, Value.sortedItems]

mutual

/-- Sorting keeps all members of a rule, so it does not change how deep the rule is nested. -/
theorem nesting_sorted : ∀ {rule : Rule}, rule.Storable →
    rule.toValue.sorted.nesting = rule.toValue.nesting
  | column index multiplier pattern, _ => by
      rw [nesting_column, sorted_column]
      cases pattern <;>
        simp [Value.nesting, Value.nestingOfMembers, Value.natural, Value.nesting_ofBinary64]
  | sum parts, ⟨hne, hparts⟩ => by
      rw [nesting_sum hne, sorted_sum hne]
      simp [Value.nesting, Value.nestingOfMembers, Value.natural, Value.nesting_ofBinary64,
        nestingOfItems_sorted hparts]

theorem nestingOfItems_sorted : ∀ {parts : List Rule}, storableParts parts →
    Value.nestingOfItems (Value.sortedItems (parts.map toValue)) =
      Value.nestingOfItems (parts.map toValue)
  | [], _ => rfl
  | part :: rest, ⟨hpart, hrest⟩ => by
      rw [List.map_cons, Value.sortedItems, Value.nestingOfItems, Value.nestingOfItems,
        nesting_sorted hpart, nestingOfItems_sorted hrest]

end

/-- The rule of a column is read back. -/
theorem ofTree_column (index : UInt64) {multiplier : Binary64} (h : multiplier.isFinite = true)
    {pattern : Option DatePattern} (hpattern : ∀ date ∈ pattern, date.source ≠ "") {depth : Nat}
    (hdepth : 0 < depth) :
    ofTree depth (.ofValue (column index multiplier pattern).toValue.sorted) =
      .ok (column index multiplier pattern) := by
  rw [sorted_column, ofTree_eq]
  cases pattern with
  | none =>
      have hmembers : (RuleEntry.shape (Json.list (depth - 1) (ofPart depth))).readMembers .blank []
          (.ofMembers [("field", .natural index.toNat), ("multiplier", .ofBinary64 multiplier)]) =
          .ok (⟨index, none, [], multiplier⟩, ["multiplier", "field"]) := by
        rw [Json.RecordShape.readMembers_cons rfl rfl
            (Json.Slot.read_of (Json.unsigned_natural "usize" index) _),
          Json.RecordShape.readMembers_cons rfl rfl (Json.Slot.read_of (Json.real_ofBinary64 h) _)]
        rfl
      rw [List.nil_append, Json.RecordShape.read_object hdepth hmembers rfl]
      rfl
  | some date =>
      have hmembers : (RuleEntry.shape (Json.list (depth - 1) (ofPart depth))).readMembers .blank []
          (.ofMembers [("dateformat", .string date.source), ("field", .natural index.toNat),
            ("multiplier", .ofBinary64 multiplier)]) =
          .ok (⟨index, some date.source, [], multiplier⟩,
            ["multiplier", "field", "dateformat"]) := by
        rw [Json.RecordShape.readMembers_cons rfl rfl
            (Json.Slot.read_of (Json.optional_text_string date.source) _),
          Json.RecordShape.readMembers_cons rfl rfl
            (Json.Slot.read_of (Json.unsigned_natural "usize" index) _),
          Json.RecordShape.readMembers_cons rfl rfl (Json.Slot.read_of (Json.real_ofBinary64 h) _)]
        rfl
      have hsource : date.source.isEmpty = false := by
        simpa using hpattern date rfl
      rw [List.singleton_append, Json.RecordShape.read_object hdepth hmembers rfl]
      show Except.ok (RuleEntry.toRule _) = _
      simp [RuleEntry.toRule, hsource]

mutual

/-- A rule that a document can hold is read back, where enough containers may be entered. -/
theorem ofTree_toValue : ∀ {rule : Rule}, rule.Storable → ∀ {depth : Nat},
    rule.toValue.nesting ≤ depth → ofTree depth (.ofValue rule.toValue.sorted) = .ok rule
  | column index multiplier pattern, ⟨hfinite, hpattern⟩, depth, hdepth => by
      rw [nesting_column] at hdepth
      exact ofTree_column index hfinite hpattern hdepth
  | sum parts, ⟨hne, hparts⟩, depth, hdepth => by
      rw [nesting_sum hne] at hdepth
      obtain ⟨inner, rfl⟩ : ∃ inner, depth = inner + 2 := ⟨depth - 2, by omega⟩
      have hfield : Json.unsigned "usize" (.ofValue (.natural 0)) = .ok 0 :=
        Json.unsigned_natural "usize" 0
      have hlist : Json.list (inner + 1) (ofTree inner)
          (.ofValue (.array (Value.sortedItems (parts.map toValue)))) = .ok parts :=
        Json.list_array (Nat.succ_pos _) (ofTree_toValues hparts (by omega))
      have hmembers : (RuleEntry.shape (Json.list (inner + 1) (ofTree inner))).readMembers .blank []
          (.ofMembers [("field", .natural 0), ("multiplier", .ofBinary64 .one),
            ("sum", .array (Value.sortedItems (parts.map toValue)))]) =
          .ok (⟨0, none, parts, .one⟩, ["sum", "multiplier", "field"]) := by
        rw [Json.RecordShape.readMembers_cons rfl rfl (Json.Slot.read_of hfield _),
          Json.RecordShape.readMembers_cons rfl rfl
            (Json.Slot.read_of (Json.real_ofBinary64 Binary64.isFinite_one) _),
          Json.RecordShape.readMembers_cons rfl rfl (Json.Slot.read_of hlist _)]
        rfl
      rw [sorted_sum hne, ofTree_eq]
      show Except.map RuleEntry.toRule
        ((RuleEntry.shape (Json.list (inner + 1) (ofTree inner))).read
        (inner + 2) _) = _
      rw [Json.RecordShape.read_object (Nat.succ_pos _) hmembers rfl]
      show Except.ok (RuleEntry.toRule _) = _
      unfold RuleEntry.toRule
      split
      · rename_i hempty
        exact absurd hempty hne
      · rfl

theorem ofTree_toValues : ∀ {parts : List Rule}, storableParts parts → ∀ {depth : Nat},
    Value.nestingOfItems (parts.map toValue) ≤ depth →
    List.Forall₂ (fun value part => ofTree depth (.ofValue value) = .ok part)
      (Value.sortedItems (parts.map toValue)) parts
  | [], _, _, _ => .nil
  | part :: rest, ⟨hpart, hrest⟩, depth, hdepth => by
      rw [List.map_cons, Value.nestingOfItems] at hdepth
      exact .cons (ofTree_toValue hpart (by omega)) (ofTree_toValues hrest (by omega))

end

end Rule

/-! ## The rules of a format -/

namespace FieldRules

/-- All rules are such that documents can hold them. -/
def Storable (rules : FieldRules) : Prop :=
  ∀ field ∈ rules.named, field.2.Storable

theorem nesting_toValue_le {rules : FieldRules} {depth : Nat} :
    rules.toValue.nesting ≤ depth + 1 ↔ ∀ field ∈ rules.named, field.2.toValue.nesting ≤ depth := by
  rw [toValue, Value.nesting, Nat.add_le_add_iff_right, Value.nestingOfMembers_le,
    List.forall_mem_map]

theorem storable_blank : ∀ field ∈ FieldRules.blank.named,
    field.2.Storable ∧ field.2.toValue.nesting ≤ 1 := by
  intro field hfield
  have hcolumn : field.2 = .ofColumn 0 := by
    simp only [FieldRules.blank, named, List.mem_cons, List.not_mem_nil, or_false] at hfield
    rcases hfield with rfl | rfl | rfl | rfl | rfl | rfl <;> rfl
  rw [hcolumn, Rule.ofColumn, Rule.nesting_column]
  exact ⟨⟨Binary64.isFinite_one, fun date hdate => by cases hdate⟩, Nat.le_refl 1⟩

/-- Every rule that is read is one that documents can hold.  The rules of a blank record count as
read, so the bound on how deep they are nested is not below theirs. -/
theorem of_ofTree {depth : Nat} {value : Value} (hfits : value.Fits) {rules : FieldRules}
    (h : ofTree depth (.ofValue value) = .ok rules) :
    rules.Storable ∧ rules.toValue.nesting ≤ max 2 depth := by
  have hblank : ∀ field ∈ FieldRules.blank.named, field.2.Storable ∧
      field.2.toValue.nesting ≤ max 1 (depth - 1) := by
    intro field hfield
    obtain ⟨hstorable, hnesting⟩ := storable_blank field hfield
    exact ⟨hstorable, Nat.le_trans hnesting (Nat.le_max_left ..)⟩
  have hstep : ∀ part ∈ value.parts, ∀ slot ∈ (shape (depth - 1)).slots, ∀ record next : FieldRules,
      (∀ field ∈ record.named, field.2.Storable ∧ field.2.toValue.nesting ≤ max 1 (depth - 1)) →
      slot.read (.ofValue part) record = .ok next →
      ∀ field ∈ next.named, field.2.Storable ∧ field.2.toValue.nesting ≤ max 1 (depth - 1) := by
    intro part hpart slot hslot record next hrecord hread
    have hrule : ∀ rule, Rule.ofTree (depth - 1) (.ofValue part) = .ok rule →
        rule.Storable ∧ rule.toValue.nesting ≤ max 1 (depth - 1) := by
      intro rule hrule
      obtain ⟨hstorable, hnesting⟩ :=
        Rule.of_ofTree (Value.fits_of_mem_parts hfits part hpart) hrule
      exact ⟨hstorable, Nat.le_trans hnesting (Nat.le_max_right ..)⟩
    simp only [shape, List.mem_cons, List.not_mem_nil, or_false] at hslot
    simp only [named, List.forall_mem_cons] at hrecord ⊢
    obtain ⟨htrntype, hdtposted, hdtuser, htrnamt, hmemo, hftid, hnone⟩ := hrecord
    rcases hslot with rfl | rfl | rfl | rfl | rfl | rfl
    all_goals
      obtain ⟨rule, hpartRule, rfl⟩ := Json.Slot.of_read hread
      have hnew := hrule rule hpartRule
      refine ⟨?_, ?_, ?_, ?_, ?_, ?_, hnone⟩ <;> assumption
  obtain ⟨_, hrules⟩ := Json.RecordShape.of_read hblank hstep h
  refine ⟨fun field hfield => (hrules field hfield).1, ?_⟩
  have hnesting : rules.toValue.nesting ≤ max 1 (depth - 1) + 1 :=
    nesting_toValue_le.mpr fun field hfield => (hrules field hfield).2
  omega

theorem sorted_toValue (rules : FieldRules) :
    rules.toValue.sorted =
      .object [("dtposted", rules.dtposted.toValue.sorted), ("dtuser", rules.dtuser.toValue.sorted),
        ("ftid", rules.ftid.toValue.sorted), ("memo", rules.memo.toValue.sorted),
        ("trnamt", rules.trnamt.toValue.sorted), ("trntype", rules.trntype.toValue.sorted)] := by
  simp +decide [toValue, named, Value.sorted, Value.sortMembers, Value.insertMember]

/-- All rules are still there in the order of their names, each as deep as before. -/
theorem nesting_sorted {rules : FieldRules} (h : rules.Storable) :
    rules.toValue.sorted.nesting = rules.toValue.nesting := by
  apply Nat.le_antisymm (Value.nesting_sorted_le _)
  rw [sorted_toValue, Value.nesting, nesting_toValue_le]
  intro field hfield
  rw [← Rule.nesting_sorted (h field hfield)]
  apply Value.nestingOfMembers_le.mp (Nat.le_refl _) (field.1, field.2.toValue.sorted)
  simp only [named, List.mem_cons, List.not_mem_nil, or_false] at hfield
  rcases hfield with rfl | rfl | rfl | rfl | rfl | rfl <;> simp

theorem fits_toValue {rules : FieldRules} (h : rules.Storable) : rules.toValue.Fits := by
  have hrule : ∀ field ∈ rules.named, field.2.toValue.Fits :=
    fun field hfield => Rule.fits_toValue (h field hfield)
  simp only [named, List.forall_mem_cons] at hrule
  obtain ⟨htrntype, hdtposted, hdtuser, htrnamt, hmemo, hftid, _⟩ := hrule
  exact ⟨htrntype, hdtposted, hdtuser, htrnamt, hmemo, hftid, trivial⟩

/-- The rules of a format are read back, where enough containers may be entered. -/
theorem ofTree_toValue {rules : FieldRules} (h : rules.Storable) {depth : Nat}
    (hdepth : rules.toValue.nesting ≤ depth) :
    ofTree depth (.ofValue rules.toValue.sorted) = .ok rules := by
  obtain ⟨inner, rfl⟩ : ∃ inner, depth = inner + 1 := by
    refine ⟨depth - 1, ?_⟩
    simp only [toValue, Value.nesting] at hdepth
    omega
  have hnesting := nesting_toValue_le.mp hdepth
  have hrule : ∀ field ∈ rules.named,
      Rule.ofTree inner (.ofValue field.2.toValue.sorted) = .ok field.2 :=
    fun field hfield => Rule.ofTree_toValue (h field hfield) (hnesting field hfield)
  simp only [named, List.forall_mem_cons] at hrule
  obtain ⟨htrntype, hdtposted, hdtuser, htrnamt, hmemo, hftid, _⟩ := hrule
  have hmembers : (shape inner).readMembers .blank [] (.ofMembers
      [("dtposted", rules.dtposted.toValue.sorted), ("dtuser", rules.dtuser.toValue.sorted),
        ("ftid", rules.ftid.toValue.sorted), ("memo", rules.memo.toValue.sorted),
        ("trnamt", rules.trnamt.toValue.sorted), ("trntype", rules.trntype.toValue.sorted)]) =
      .ok (rules, ["trntype", "trnamt", "memo", "ftid", "dtuser", "dtposted"]) := by
    rw [Json.RecordShape.readMembers_cons rfl rfl (Json.Slot.read_of hdtposted _),
      Json.RecordShape.readMembers_cons rfl rfl (Json.Slot.read_of hdtuser _),
      Json.RecordShape.readMembers_cons rfl rfl (Json.Slot.read_of hftid _),
      Json.RecordShape.readMembers_cons rfl rfl (Json.Slot.read_of hmemo _),
      Json.RecordShape.readMembers_cons rfl rfl (Json.Slot.read_of htrnamt _),
      Json.RecordShape.readMembers_cons rfl rfl (Json.Slot.read_of htrntype _)]
    rfl
  rw [sorted_toValue]
  exact Json.RecordShape.read_object (Nat.succ_pos _) hmembers rfl

end FieldRules

/-! ## Formats -/

namespace Format

/-- A format that documents can hold and that can be used. -/
structure Storable (format : Format) : Prop where
  name : format.name ≠ ""
  check : format.check = .ok ()
  fields : format.fields.Storable

theorem nesting_toValue (format : Format) :
    format.toValue.nesting = format.fields.toValue.nesting + 1 := by
  cases hencoding : format.encodingLabel <;>
    simp [toValue, hencoding, Value.nesting, Value.nestingOfMembers, Value.natural]

/-- The rules of a format that is read are such that documents can hold them. -/
theorem of_ofTree {depth : Nat} {value : Value} (hfits : value.Fits) {format : Format}
    (h : ofTree depth (.ofValue value) = .ok format) :
    format.fields.Storable ∧ format.toValue.nesting ≤ max 3 depth := by
  have hblank : (Format.blank).fields.Storable ∧
      (Format.blank).fields.toValue.nesting ≤ max 2 (depth - 1) := by
    refine ⟨fun field hfield => (FieldRules.storable_blank field hfield).1, ?_⟩
    have hnesting : FieldRules.blank.toValue.nesting ≤ 1 + 1 :=
      FieldRules.nesting_toValue_le.mpr fun field hfield =>
        (FieldRules.storable_blank field hfield).2
    exact Nat.le_trans hnesting (Nat.le_max_left ..)
  have hstep : ∀ part ∈ value.parts, ∀ slot ∈ (shape (depth - 1)).slots, ∀ record next : Format,
      (record.fields.Storable ∧ record.fields.toValue.nesting ≤ max 2 (depth - 1)) →
      slot.read (.ofValue part) record = .ok next →
      next.fields.Storable ∧ next.fields.toValue.nesting ≤ max 2 (depth - 1) := by
    intro part hpart slot hslot record next hrecord hread
    simp only [shape, List.mem_cons, List.not_mem_nil, or_false] at hslot
    rcases hslot with rfl | rfl | rfl | rfl | rfl | rfl | rfl
    case inr.inr.inr.inr.inr.inr =>
      obtain ⟨fields, hfields, rfl⟩ := Json.Slot.of_read hread
      exact FieldRules.of_ofTree (Value.fits_of_mem_parts hfits part hpart) hfields
    all_goals
      obtain ⟨_, _, rfl⟩ := Json.Slot.of_read hread
      exact hrecord
  obtain ⟨_, hfields, hnesting⟩ := Json.RecordShape.of_read hblank hstep h
  refine ⟨hfields, ?_⟩
  rw [nesting_toValue]
  omega

theorem sorted_toValue (format : Format) :
    format.toValue.sorted =
      .object ([("comma", .string format.comma), ("curdef", .string format.declaredCurrency)] ++
        (match format.encodingLabel with
          | some label => [("encoding", .string label)]
          | none => []) ++
        [("fields", format.fields.toValue.sorted), ("name", .string format.name),
          ("skip-footer", .natural format.skipFooter.toNat),
          ("skip-header", .natural format.skipHeader.toNat)]) := by
  cases hencoding : format.encodingLabel <;>
    simp +decide [toValue, hencoding, Value.sorted, Value.sortMembers, Value.insertMember,
      Value.natural]

theorem nesting_sorted {format : Format} (h : format.fields.Storable) :
    format.toValue.sorted.nesting = format.toValue.nesting := by
  rw [nesting_toValue, sorted_toValue, ← FieldRules.nesting_sorted h]
  cases format.encodingLabel <;>
    simp [Value.nesting, Value.nestingOfMembers, Value.natural]

theorem fits_toValue {format : Format} (h : format.fields.Storable) : format.toValue.Fits := by
  have hfields := FieldRules.fits_toValue h
  have hheader := Value.fits_natural format.skipHeader
  have hfooter := Value.fits_natural format.skipFooter
  unfold toValue
  cases format.encodingLabel with
  | none => exact ⟨trivial, trivial, hheader, hfooter, trivial, hfields, trivial⟩
  | some label => exact ⟨trivial, trivial, hheader, hfooter, trivial, trivial, hfields, trivial⟩

/-- The members after the encoding are read into the format, whether there is an encoding or not. -/
theorem readMembers_rest {inner : Nat} {format : Format}
    (hfields : FieldRules.ofTree inner (.ofValue format.fields.toValue.sorted) = .ok format.fields)
    (record : Format) {seen : List String}
    (hseen : seen = ["curdef", "comma"] ∨ seen = ["encoding", "curdef", "comma"]) :
    (shape inner).readMembers record seen (.ofMembers
        [("fields", format.fields.toValue.sorted), ("name", .string format.name),
          ("skip-footer", .natural format.skipFooter.toNat),
          ("skip-header", .natural format.skipHeader.toNat)]) =
      .ok ({ record with
          fields := format.fields
          name := format.name
          skipFooter := format.skipFooter
          skipHeader := format.skipHeader },
        "skip-header" :: "skip-footer" :: "name" :: "fields" :: seen) := by
  have hname := Json.text_string format.name
  have hfooter := Json.unsigned_natural "u64" format.skipFooter
  have hheader := Json.unsigned_natural "u64" format.skipHeader
  rcases hseen with rfl | rfl
  all_goals
    rw [Json.RecordShape.readMembers_cons rfl rfl (Json.Slot.read_of hfields _),
      Json.RecordShape.readMembers_cons rfl rfl (Json.Slot.read_of hname _),
      Json.RecordShape.readMembers_cons rfl rfl (Json.Slot.read_of hfooter _),
      Json.RecordShape.readMembers_cons rfl rfl (Json.Slot.read_of hheader _)]
    rfl

/-- A format whose rules documents can hold is read back, where enough containers may be entered. -/
theorem ofTree_toValue {format : Format} (h : format.fields.Storable) {depth : Nat}
    (hdepth : format.toValue.nesting ≤ depth) :
    ofTree depth (.ofValue format.toValue.sorted) = .ok format := by
  rw [nesting_toValue] at hdepth
  obtain ⟨inner, rfl⟩ : ∃ inner, depth = inner + 1 := ⟨depth - 1, by omega⟩
  have hfields : FieldRules.ofTree inner (.ofValue format.fields.toValue.sorted) =
      .ok format.fields := FieldRules.ofTree_toValue h (by omega)
  have hrest := readMembers_rest hfields
  have hcomma := Json.text_string format.comma
  have hcurrency := Json.text_string format.declaredCurrency
  rw [sorted_toValue]
  obtain ⟨name, declaredCurrency, skipHeader, skipFooter, comma, encodingLabel, fields⟩ := format
  cases encodingLabel with
  | none =>
      have hmembers : (shape inner).readMembers .blank [] (.ofMembers
          [("comma", .string comma), ("curdef", .string declaredCurrency),
            ("fields", fields.toValue.sorted), ("name", .string name),
            ("skip-footer", .natural skipFooter.toNat),
            ("skip-header", .natural skipHeader.toNat)]) =
          .ok (⟨name, declaredCurrency, skipHeader, skipFooter, comma, none, fields⟩,
            ["skip-header", "skip-footer", "name", "fields", "curdef", "comma"]) := by
        rw [Json.RecordShape.readMembers_cons rfl rfl (Json.Slot.read_of hcomma _),
          Json.RecordShape.readMembers_cons rfl rfl (Json.Slot.read_of hcurrency _),
          hrest _ (.inl rfl)]
        rfl
      exact Json.RecordShape.read_object (Nat.succ_pos _) hmembers rfl
  | some label =>
      have hlabel := Json.optional_text_string label
      have hmembers : (shape inner).readMembers .blank [] (.ofMembers
          [("comma", .string comma), ("curdef", .string declaredCurrency),
            ("encoding", .string label), ("fields", fields.toValue.sorted), ("name", .string name),
            ("skip-footer", .natural skipFooter.toNat),
            ("skip-header", .natural skipHeader.toNat)]) =
          .ok (⟨name, declaredCurrency, skipHeader, skipFooter, comma, some label, fields⟩,
            ["skip-header", "skip-footer", "name", "fields", "encoding", "curdef", "comma"]) := by
        rw [Json.RecordShape.readMembers_cons rfl rfl (Json.Slot.read_of hcomma _),
          Json.RecordShape.readMembers_cons rfl rfl (Json.Slot.read_of hcurrency _),
          Json.RecordShape.readMembers_cons rfl rfl (Json.Slot.read_of hlabel _),
          hrest _ (.inr rfl)]
      exact Json.RecordShape.read_object (Nat.succ_pos _) hmembers rfl

end Format

end BankStatement
