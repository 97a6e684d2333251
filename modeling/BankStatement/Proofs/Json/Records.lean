import Mathlib.Data.List.Forall2
import BankStatement.Proofs.Json.Trees

/-!
# Reading records

What can be said of a record that was read from a value, whatever the value is: a property of the
record that every slot keeps holds after reading (`RecordShape.of_readMembers` for objects, which
also tells the names that were met, and `RecordShape.of_read` for both forms of a record).  And how
a record is read from members that are known: one member at a time (`RecordShape.readMembers_cons`),
also when the tree is any that holds them (`Reads`, `RecordShape.ReadsMembers.cons`).
-/

namespace BankStatement.Json

/-! ## Scalars -/

/-- Whether a reader makes this of every tree that holds a value. -/
def Reads {α : Type} (reader : Reader α) (value : Value) (result : α) : Prop :=
  ∀ tree, tree.Holds value → reader tree = .ok result

theorem Reads.ofValue {α : Type} {reader : Reader α} {value : Value} {result : α}
    (h : Reads reader value result) : reader (Tree.ofValue value) = .ok result :=
  h _ (Tree.holds_ofValue value)

theorem reads_textNamed (expected s : String) : Reads (textNamed expected) (.string s) s := by
  intro tree htree
  cases htree
  rfl

theorem reads_optional_null {α : Type} (reader : Reader α) :
    Reads (optional reader) .null none := by
  intro tree htree
  cases htree
  rfl

theorem reads_optional {α : Type} {reader : Reader α} {value : Value} {result : α}
    (hvalue : value ≠ .null) (h : Reads reader value result) :
    Reads (optional reader) value (some result) := by
  intro tree htree
  have hread := h tree htree
  have hmap : (reader tree).map some = .ok (some result) := by
    rw [hread]
    rfl
  cases htree with
  | null => exact absurd rfl hvalue
  | _ => exact hmap

theorem reads_real {x : Binary64} (h : x.isFinite = true) : Reads real (.ofBinary64 x) x := by
  rw [Value.ofBinary64_of_isFinite h]
  intro tree htree
  cases htree
  rfl

theorem text_string (s : String) : text (Tree.ofValue (.string s)) = .ok s :=
  (reads_textNamed _ s).ofValue

theorem optional_text_string (s : String) :
    optional text (Tree.ofValue (.string s)) = .ok (some s) :=
  (reads_optional (by simp) (reads_textNamed _ s)).ofValue

/-- A text is read from a string only. -/
theorem text_eq_ok {value : Value} {s : String} (h : text (Tree.ofValue value) = .ok s) :
    value = .string s := by
  cases value with
  | string t =>
      rw [text_string] at h
      cases h
      rfl
  | _ => cases h

theorem unsigned_natural (typeName : String) (n : UInt64) :
    unsigned typeName (Tree.ofValue (.natural n.toNat)) = .ok n := by
  have hrange : (0 : Int) ≤ (n.toNat : Int) ∧ (n.toNat : Int) < (Nat.pow 2 64 : Nat) := by
    have := n.toNat_lt
    simp only [Nat.pow_eq]
    omega
  rw [Value.natural, Tree.ofValue, unsigned, if_pos hrange, Int.toNat_natCast, UInt64.ofNat_toNat]

theorem real_ofBinary64 {x : Binary64} (h : x.isFinite = true) :
    real (Tree.ofValue (.ofBinary64 x)) = .ok x :=
  (reads_real h).ofValue

/-- A number that documents can hold is read as a finite one. -/
theorem isFinite_of_real {value : Value} (hfits : value.Fits) {x : Binary64}
    (h : real (Tree.ofValue value) = .ok x) : x.isFinite = true := by
  cases value with
  | number n =>
      cases n with
      | integer n =>
          cases h
          exact Binary64.isFinite_ofInt hfits.1 hfits.2
      | real x =>
          cases h
          exact hfits
  | _ => cases h

/-! ## Lists -/

/-- A list is read from an array, each item by itself. -/
theorem Items.read_ofValues {α : Type} {reader : Reader α} {values : List Value} {results : List α}
    (h : List.Forall₂ (fun value result => reader (Tree.ofValue value) = .ok result) values
      results) :
    (Items.ofValues values).read reader = .ok results := by
  induction h with
  | nil => rfl
  | cons hvalue _ ih =>
      rw [Items.ofValues, Items.read, hvalue, ih]
      rfl

theorem Items.of_read {α : Type} {reader : Reader α} {values : List Value} {results : List α}
    (h : (Items.ofValues values).read reader = .ok results) :
    List.Forall₂ (fun value result => reader (Tree.ofValue value) = .ok result) values results := by
  induction values generalizing results with
  | nil =>
      cases h
      exact .nil
  | cons value rest ih =>
      rw [Items.ofValues, Items.read] at h
      cases hvalue : reader (Tree.ofValue value) with
      | error e =>
          rw [hvalue] at h
          cases h
      | ok result =>
          cases hrest : (Items.ofValues rest).read reader with
          | error e =>
              rw [hvalue, hrest] at h
              cases h
          | ok results =>
              rw [hvalue, hrest] at h
              cases h
              exact .cons hvalue (ih hrest)

theorem list_array {α : Type} {depth : Nat} {reader : Reader α} {values : List Value}
    {results : List α} (hdepth : 0 < depth)
    (h : List.Forall₂ (fun value result => reader (Tree.ofValue value) = .ok result) values
      results) :
    list depth reader (Tree.ofValue (.array values)) = .ok results := by
  rw [Tree.ofValue, list, if_neg (Nat.pos_iff_ne_zero.mp hdepth), Items.read_ofValues h]

/-- A list is read from an array only, and only where a container may be entered. -/
theorem list_eq_ok {α : Type} {depth : Nat} {reader : Reader α} {value : Value} {results : List α}
    (h : list depth reader (Tree.ofValue value) = .ok results) :
    0 < depth ∧ ∃ values, value = .array values ∧
      List.Forall₂
        (fun value result => reader (Tree.ofValue value) = .ok result) values results := by
  cases value with
  | array values =>
      rw [Tree.ofValue, list] at h
      split at h
      · cases h
      · rename_i hdepth
        exact ⟨Nat.pos_of_ne_zero hdepth, values, rfl, Items.of_read h⟩
  | _ => cases h

/-- A list is read from any tree that holds the array. -/
theorem reads_list {α : Type} {depth : Nat} {reader : Reader α} {values : List Value}
    {results : List α} (hdepth : 0 < depth) (h : List.Forall₂ (Reads reader) values results) :
    Reads (list depth reader) (.array values) results := by
  have hitems : ∀ items : Items, items.Holds values → items.read reader = .ok results := by
    induction h with
    | nil =>
        intro items hitems
        cases hitems
        rfl
    | cons hvalue _ ih =>
        intro items hitems
        cases hitems with
        | item start htree hrest =>
            rw [Items.read, hvalue _ htree, ih _ hrest]
            rfl
  intro tree htree
  cases htree with
  | array start hholds => rw [list, if_neg (Nat.pos_iff_ne_zero.mp hdepth), hitems _ hholds]

theorem exists_read_of_mem {α : Type} {reader : Reader α} {values : List Value} {results : List α}
    (h : List.Forall₂ (fun value result => reader (Tree.ofValue value) = .ok result) values results)
    {result : α} (hresult : result ∈ results) :
    ∃ value ∈ values, reader (Tree.ofValue value) = .ok result := by
  induction h with
  | nil => cases hresult
  | cons hvalue _ ih =>
      rcases List.mem_cons.mp hresult with rfl | hresult
      · exact ⟨_, List.mem_cons_self .., hvalue⟩
      · obtain ⟨value, hmem, hread⟩ := ih hresult
        exact ⟨value, List.mem_cons_of_mem _ hmem, hread⟩

/-! ## Slots -/

/-- Where names are different, looking for a name finds what has it. -/
theorem find?_name {α : Type} {name : α → String} {entries : List α}
    (hnames : (entries.map name).Nodup) {entry : α} (hentry : entry ∈ entries) :
    (entries.find? fun other => name other == name entry) = some entry := by
  induction entries with
  | nil => cases hentry
  | cons first rest ih =>
      rw [List.map_cons, List.nodup_cons] at hnames
      rcases List.mem_cons.mp hentry with rfl | hrest
      · rw [List.find?_cons_of_pos (by simp)]
      · have hne : name first ≠ name entry := fun hsame =>
          hnames.1 (hsame ▸ List.mem_map_of_mem hrest)
        rw [List.find?_cons_of_neg (by simpa using hne), ih hnames.2 hrest]

theorem Slot.read_of {σ α : Type} {name : String} {omission : Omission} {reader : Reader α}
    {fill : α → σ → σ} {tree : Tree} {value : α} (h : reader tree = .ok value) (record : σ) :
    (Slot.of name omission reader fill).read tree record = .ok (fill value record) := by
  show Except.map _ (reader tree) = _
  rw [h]
  rfl

theorem Slot.reads_of {σ α : Type} {name : String} {omission : Omission} {reader : Reader α}
    {fill : α → σ → σ} {value : Value} {result : α} (h : Reads reader value result) (record : σ) :
    Reads (fun tree => (Slot.of name omission reader fill).read tree record) value
      (fill result record) :=
  fun tree htree => Slot.read_of (h tree htree) record

theorem Slot.of_read {σ α : Type} {name : String} {omission : Omission} {reader : Reader α}
    {fill : α → σ → σ} {tree : Tree} {record next : σ}
    (h : (Slot.of name omission reader fill).read tree record = .ok next) :
    ∃ value, reader tree = .ok value ∧ fill value record = next := by
  have hmap : Except.map (fun value => fill value record) (reader tree) = .ok next := h
  cases hvalue : reader tree with
  | error e =>
      rw [hvalue] at hmap
      cases hmap
  | ok value =>
      rw [hvalue] at hmap
      cases hmap
      exact ⟨value, rfl, rfl⟩

/-! ## Parts of values -/

/-- The items of an array, and the values of the members of an object. -/
def Value.parts : Value → List Value
  | .array items => items
  | .object members => members.map (·.2)
  | _ => []

theorem Value.fits_of_mem_parts {value : Value} (h : value.Fits) :
    ∀ part ∈ value.parts, part.Fits := by
  cases value with
  | array items => exact fitsItems_iff.mp h
  | object members => exact fitsMembers_iff.mp h
  | _ => exact fun part hpart => by cases hpart

namespace RecordShape

variable {σ : Type} {shape : RecordShape σ}

/-! ## Records of any value -/

/-- A property of a record and the names met so far that holds at the start, and after every member
that a slot reads, holds at the end. -/
theorem of_readMembers {P : σ → List String → Prop} {members : List (String × Value)}
    (hstep : ∀ name value, (name, value) ∈ members → ∀ slot ∈ shape.slots, slot.name = name →
      ∀ record seen next, P record seen → slot.read (.ofValue value) record = .ok next →
        P next (name :: seen)) :
    ∀ {record : σ} {seen : List String} {result : σ × List String}, P record seen →
      shape.readMembers record seen (Members.ofMembers members) = .ok result →
      P result.1 result.2 := by
  induction members with
  | nil =>
      intro record seen result hstart h
      cases h
      exact hstart
  | cons member rest ih =>
      intro record seen result hstart h
      obtain ⟨name, value⟩ := member
      have hrest := fun key other hmem => hstep key other (List.mem_cons_of_mem (name, value) hmem)
      rw [Members.ofMembers, readMembers] at h
      simp only [String.ofList_toList] at h
      split at h
      · -- a member that no slot reads
        cases hskip : (Tree.ofValue value).skip with
        | error e =>
            rw [hskip] at h
            cases h
        | ok passed =>
            rw [hskip] at h
            exact ih hrest hstart h
      · rename_i slot hslot
        split at h
        · cases h
        · cases hread : slot.read (Tree.ofValue value) record with
          | error e =>
              rw [hread] at h
              cases h
          | ok next =>
              rw [hread] at h
              have hname : slot.name = name := by simpa using List.find?_some hslot
              exact ih hrest (hstep name value (List.mem_cons_self ..) slot
                (List.mem_of_find?_eq_some hslot) hname record seen next hstart hread) h

theorem of_readItems {P : σ → Prop} :
    ∀ {slots : List (Slot σ)} {values : List Value},
      (∀ value ∈ values, ∀ slot ∈ slots, ∀ record next, P record →
        slot.read (.ofValue value) record = .ok next → P next) →
      ∀ {index : Nat} {record result : σ}, P record →
        shape.readItems record index slots (Items.ofValues values) = .ok result → P result
  | [], [], _, index, record, result, hstart, h => by
      cases h
      exact hstart
  | [], value :: rest, _, index, record, result, _, h => by cases h
  | slot :: slots, [], hstep, index, record, result, hstart, h => by
      rw [Items.ofValues, readItems] at h
      split at h
      · have hclose : shape.readItems record (index + 1) slots (Items.ofValues []) = .ok result := h
        exact of_readItems (fun value hvalue => by cases hvalue) hstart hclose
      · cases h
  | slot :: slots, value :: rest, hstep, index, record, result, hstart, h => by
      rw [Items.ofValues, readItems] at h
      cases hread : slot.read (Tree.ofValue value) record with
      | error e =>
          rw [hread] at h
          cases h
      | ok next =>
          rw [hread] at h
          refine of_readItems (fun other hother => ?_)
            (hstep value (List.mem_cons_self ..) slot (List.mem_cons_self ..) record next hstart
              hread)
            h
          exact fun slot hslot => hstep other (List.mem_cons_of_mem _ hother) slot
            (List.mem_cons_of_mem _ hslot)

/-- A field that may not be left out is met in an object that is read. -/
theorem contains_of_missing? {seen : List String} (h : shape.missing? seen = none) {slot : Slot σ}
    (hslot : slot ∈ shape.slots) (hnever : slot.omission = .never) :
    seen.contains slot.name = true := by
  unfold missing? at h
  rw [Option.map_eq_none_iff, List.find?_eq_none] at h
  have hmet := h slot hslot
  rw [hnever] at hmet
  simpa using hmet

/-- What `of_readMembers` says of a whole object.  All names that may not be left out were met. -/
theorem of_read_object {P : σ → List String → Prop} {members : List (String × Value)} {depth : Nat}
    {result : σ} (hblank : P shape.blank [])
    (hstep : ∀ name value, (name, value) ∈ members → ∀ slot ∈ shape.slots, slot.name = name →
      ∀ record seen next, P record seen → slot.read (.ofValue value) record = .ok next →
        P next (name :: seen))
    (h : shape.read depth (.ofValue (.object members)) = .ok result) :
    0 < depth ∧ ∃ seen, P result seen ∧ shape.missing? seen = none := by
  rw [Tree.ofValue, read] at h
  split at h
  · cases h
  · rename_i hdepth
    refine ⟨Nat.pos_of_ne_zero hdepth, ?_⟩
    cases hmembers : shape.readMembers shape.blank [] (Members.ofMembers members) with
    | error e =>
        rw [hmembers] at h
        cases h
    | ok pair =>
        have hpair := of_readMembers hstep hblank hmembers
        rw [hmembers] at h
        simp only [bind, Except.bind] at h
        split at h
        · cases h
        · rename_i hmissing
          cases h
          exact ⟨pair.2, hpair, hmissing⟩

/-- A property of a record that holds when it is blank, and that every slot keeps, holds when the
record has been read.  And records are read only where a container may be entered. -/
theorem of_read {P : σ → Prop} {value : Value} {depth : Nat} {result : σ} (hblank : P shape.blank)
    (hstep : ∀ part ∈ value.parts, ∀ slot ∈ shape.slots, ∀ record next, P record →
      slot.read (.ofValue part) record = .ok next → P next)
    (h : shape.read depth (.ofValue value) = .ok result) : 0 < depth ∧ P result := by
  cases value with
  | array values =>
      rw [Tree.ofValue, read] at h
      split at h
      · cases h
      · rename_i hdepth
        exact ⟨Nat.pos_of_ne_zero hdepth, of_readItems hstep hblank h⟩
  | object members =>
      obtain ⟨hdepth, _, hresult, _⟩ := of_read_object (P := fun record _ => P record) hblank
        (fun name value hmem slot hslot _ record _ next hrecord hread =>
          hstep value (List.mem_map.mpr ⟨_, hmem, rfl⟩) slot hslot record next hrecord hread) h
      exact ⟨hdepth, hresult⟩
  | _ => cases h

/-! ## Records of known members -/

/-- A member that a slot reads, of a name that was not met before. -/
theorem readMembers_member {key : List Char} {tree : Tree} {rest : Members} {slot : Slot σ}
    {record next : σ} {seen : List String}
    (hslot : (shape.slots.find? fun slot => slot.name == String.ofList key) = some slot)
    (hnew : seen.contains (String.ofList key) = false) (hread : slot.read tree record = .ok next) :
    shape.readMembers record seen (.member (.ok key) tree rest) =
      shape.readMembers next (String.ofList key :: seen) rest := by
  rw [readMembers]
  simp only [hslot, hnew, hread, Bool.false_eq_true, if_false]
  rfl

theorem readMembers_cons {name : String} {value : Value} {rest : List (String × Value)}
    {slot : Slot σ} {record next : σ} {seen : List String}
    (hslot : (shape.slots.find? fun slot => slot.name == name) = some slot)
    (hnew : seen.contains name = false) (hread : slot.read (.ofValue value) record = .ok next) :
    shape.readMembers record seen (Members.ofMembers ((name, value) :: rest)) =
      shape.readMembers next (name :: seen) (Members.ofMembers rest) := by
  rw [← String.ofList_toList (s := name)] at hslot hnew
  rw [Members.ofMembers, readMembers_member hslot hnew hread, String.ofList_toList]

/-- An object whose members fill a record in, with none missing. -/
theorem read_members {start : List Char} {members : Members} {depth : Nat} {result : σ}
    {seen : List String} (hdepth : 0 < depth)
    (hmembers : shape.readMembers shape.blank [] members = .ok (result, seen))
    (hmissing : shape.missing? seen = none) :
    shape.read depth (.object start members) = .ok result := by
  rw [read, if_neg (Nat.pos_iff_ne_zero.mp hdepth), hmembers]
  simp only [bind, Except.bind, hmissing]
  rfl

theorem read_object {members : List (String × Value)} {depth : Nat} {result : σ}
    {seen : List String} (hdepth : 0 < depth)
    (hmembers : shape.readMembers shape.blank [] (Members.ofMembers members) = .ok (result, seen))
    (hmissing : shape.missing? seen = none) :
    shape.read depth (.ofValue (.object members)) = .ok result :=
  read_members hdepth hmembers hmissing

/-- Whether all trees that hold these members fill a record in like this. -/
def ReadsMembers (shape : RecordShape σ) (record : σ) (seen : List String)
    (values : List (String × Value)) (result : σ × List String) : Prop :=
  ∀ members, members.Holds values → shape.readMembers record seen members = .ok result

theorem ReadsMembers.nil (record : σ) (seen : List String) :
    shape.ReadsMembers record seen [] (record, seen) := by
  intro members hmembers
  cases hmembers
  rfl

theorem ReadsMembers.cons {name : String} {value : Value} {rest : List (String × Value)}
    {slot : Slot σ} {record next : σ} {seen : List String} {result : σ × List String}
    (hslot : (shape.slots.find? fun slot => slot.name == name) = some slot)
    (hnew : seen.contains name = false)
    (hread : Reads (fun tree => slot.read tree record) value next)
    (hrest : shape.ReadsMembers next (name :: seen) rest result) :
    shape.ReadsMembers record seen ((name, value) :: rest) result := by
  intro members hmembers
  cases hmembers with
  | member key htree hholds =>
      rw [readMembers_member hslot hnew (hread _ htree)]
      exact hrest _ hholds

theorem ReadsMembers.reads {members : List (String × Value)} {depth : Nat} {result : σ}
    {seen : List String} (h : shape.ReadsMembers shape.blank [] members (result, seen))
    (hdepth : 0 < depth) (hmissing : shape.missing? seen = none) :
    Reads (shape.read depth) (.object members) result := by
  intro tree htree
  cases htree with
  | object start hholds => exact read_members hdepth (h _ hholds) hmissing

end RecordShape

end BankStatement.Json
