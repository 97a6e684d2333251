import BankStatement.Proofs.Json.Records
import BankStatement.Proofs.Json.Scanning
import Mathlib.Data.String.Basic

/-!
# Which values can be read

Exact conditions for the readers of documents: a scalar is read from values of its kind
(`exists_unsigned_iff` and the like), a list from an array of items that can each be read
(`exists_list_iff`), and a record from an object of which every member that has a slot can be read
and none that may not be left out is missing (`RecordShape.exists_read_iff`).

A record is not read from an object that has two members of one name, so this is about values
without such objects (`Value.DistinctNames`).  Texts have no others: the members of a value that was
read are in ascending order (`Value.distinctNames_of_ofText`).
-/

namespace BankStatement.Json

/-! ## Different names -/

mutual

/-- No object in the value has two members of one name. -/
def Value.DistinctNames : Value → Prop
  | .array items => distinctItems items
  | .object members => (members.map (·.1)).Nodup ∧ distinctMembers members
  | _ => True

def Value.distinctItems : List Value → Prop
  | [] => True
  | value :: rest => value.DistinctNames ∧ distinctItems rest

def Value.distinctMembers : List (String × Value) → Prop
  | [] => True
  | (_, value) :: rest => value.DistinctNames ∧ distinctMembers rest

end

namespace Value

theorem distinctItems_iff {items : List Value} :
    distinctItems items ↔ ∀ item ∈ items, item.DistinctNames := by
  induction items with
  | nil => simp [distinctItems]
  | cons item rest ih => rw [distinctItems, ih, List.forall_mem_cons]

theorem distinctMembers_iff {members : List (String × Value)} :
    distinctMembers members ↔ ∀ member ∈ members, member.2.DistinctNames := by
  induction members with
  | nil => simp [distinctMembers]
  | cons member rest ih =>
      obtain ⟨name, value⟩ := member
      rw [distinctMembers, ih, List.forall_mem_cons]

theorem DistinctNames.item {items : List Value} (h : (array items).DistinctNames) {item : Value}
    (hmem : item ∈ items) : item.DistinctNames :=
  distinctItems_iff.mp h _ hmem

theorem DistinctNames.member {members : List (String × Value)}
    (h : (object members).DistinctNames) {name : String} {value : Value}
    (hmem : (name, value) ∈ members) : value.DistinctNames :=
  distinctMembers_iff.mp h.2 _ hmem

theorem mem_insertMember {name : String} {value : Value} {members : List (String × Value)}
    {member : String × Value} (h : member ∈ insertMember name value members) :
    member = (name, value) ∨ member ∈ members := by
  induction members with
  | nil => simpa [insertMember] using h
  | cons first rest ih =>
      obtain ⟨key, other⟩ := first
      simp only [insertMember] at h
      split at h
      · simpa using h
      · split at h
        · rcases List.mem_cons.mp h with rfl | hrest
          · exact .inl rfl
          · exact .inr (List.mem_cons_of_mem _ hrest)
        · rcases List.mem_cons.mp h with rfl | hrest
          · exact .inr (List.mem_cons_self ..)
          · exact (ih hrest).imp_right (List.mem_cons_of_mem _)

/-- Names in ascending order stay so when a member is put in its place. -/
theorem pairwise_insertMember (name : String) (value : Value) {members : List (String × Value)}
    (h : members.Pairwise fun first second => first.1 < second.1) :
    (insertMember name value members).Pairwise fun first second => first.1 < second.1 := by
  induction members with
  | nil => exact List.pairwise_singleton _ _
  | cons first rest ih =>
      obtain ⟨key, other⟩ := first
      obtain ⟨hkey, hrest⟩ := List.pairwise_cons.mp h
      simp only [insertMember]
      split
      · rename_i hbefore
        refine List.pairwise_cons.mpr ⟨List.forall_mem_cons.mpr ⟨hbefore, ?_⟩, h⟩
        exact fun member hmember => lt_trans hbefore (hkey member hmember)
      · split
        · rename_i hsame
          subst hsame
          exact List.pairwise_cons.mpr ⟨hkey, hrest⟩
        · rename_i hnot hne
          have hafter : key < name := lt_of_le_of_ne (not_lt.mp hnot) (Ne.symm hne)
          refine List.pairwise_cons.mpr ⟨fun member hmember => ?_, ih hrest⟩
          rcases mem_insertMember hmember with rfl | hmember
          · exact hafter
          · exact hkey member hmember

theorem nodup_of_pairwise {members : List (String × Value)}
    (h : members.Pairwise fun first second => first.1 < second.1) :
    (members.map (·.1)).Nodup :=
  List.pairwise_map.mpr (h.imp fun hlt => ne_of_lt hlt)

mutual

/-- A sorted value has no two members of one name in an object. -/
theorem distinctNames_sorted : ∀ value : Value, value.sorted.DistinctNames
  | null | bool _ | number _ | string _ => trivial
  | array items => distinctItems_sortedItems items
  | object members => by
      obtain ⟨hsorted, hmembers⟩ := distinctMembers_sortMembers members .nil trivial
      exact ⟨nodup_of_pairwise hsorted, hmembers⟩

theorem distinctItems_sortedItems : ∀ items : List Value, distinctItems (sortedItems items)
  | [] => trivial
  | value :: rest => ⟨distinctNames_sorted value, distinctItems_sortedItems rest⟩

theorem distinctMembers_sortMembers : ∀ (members : List (String × Value))
    {sofar : List (String × Value)},
    (sofar.Pairwise fun first second => first.1 < second.1) → distinctMembers sofar →
      ((sortMembers sofar members).Pairwise fun first second => first.1 < second.1) ∧
        distinctMembers (sortMembers sofar members)
  | [], _, hsorted, hsofar => ⟨hsorted, hsofar⟩
  | (name, value) :: rest, sofar, hsorted, hsofar => by
      rw [sortMembers]
      refine distinctMembers_sortMembers rest (pairwise_insertMember name value.sorted hsorted) ?_
      rw [distinctMembers_iff] at hsofar ⊢
      intro member hmember
      rcases mem_insertMember hmember with rfl | hmember
      · exact distinctNames_sorted value
      · exact hsofar member hmember

end

end Value

/-- A value that was read from a text has no two members of one name in an object. -/
theorem Value.distinctNames_of_ofText {text : String} {value : Value}
    (h : Value.ofText text = .ok value) : value.DistinctNames := by
  obtain ⟨raw, _, _, rfl⟩ := Tree.holds_of_toValue (Document.read_eq_ok h)
  exact distinctNames_sorted raw

/-! ## Skipping -/

mutual

/-- Whatever a value is, it can be passed over. -/
theorem Tree.skip_ofValue : ∀ value : Value, (Tree.ofValue value).skip = .ok ()
  | .null | .bool _ | .number _ | .string _ => rfl
  | .array items => Items.skip_ofValues items
  | .object members => Members.skip_ofMembers members

theorem Items.skip_ofValues : ∀ values : List Value, (Items.ofValues values).skip = .ok ()
  | [] => rfl
  | value :: rest => by
      rw [Items.ofValues, Items.skip, Tree.skip_ofValue value]
      exact Items.skip_ofValues rest

theorem Members.skip_ofMembers : ∀ members : List (String × Value),
    (Members.ofMembers members).skip = .ok ()
  | [] => rfl
  | (_, value) :: rest => by
      rw [Members.ofMembers, Members.skip, Tree.skip_ofValue value]
      exact Members.skip_ofMembers rest

end

/-! ## Scalars and lists -/

/-- The number is written as an integer of 64 bits without a sign. -/
def Number.IsWord : Number → Prop
  | .integer n => 0 ≤ n ∧ n < (Nat.pow 2 64 : Nat)
  | .real _ => False

namespace Value

def IsText (value : Value) : Prop :=
  ∃ text, value = .string text

/-- A number of a certain kind. -/
def IsNumber (Kind : Number → Prop) (value : Value) : Prop :=
  ∃ n, value = .number n ∧ Kind n

/-- An array of values of a certain kind. -/
def IsArrayOf (Kind : Value → Prop) (value : Value) : Prop :=
  ∃ items, value = .array items ∧ ∀ item ∈ items, Kind item

end Value

theorem exists_text_iff {value : Value} :
    (∃ s, text (.ofValue value) = .ok s) ↔ value.IsText := by
  refine ⟨fun ⟨s, h⟩ => ⟨s, text_eq_ok h⟩, ?_⟩
  rintro ⟨s, rfl⟩
  exact ⟨s, text_string s⟩

theorem exists_optional_text {value : Value} (h : value.IsText) :
    ∃ s, optional text (.ofValue value) = .ok s := by
  obtain ⟨s, rfl⟩ := h
  exact ⟨some s, optional_text_string s⟩

theorem exists_real {value : Value} (h : ∃ n, value = .number n) :
    ∃ x, real (.ofValue value) = .ok x := by
  obtain ⟨n, rfl⟩ := h
  cases n with
  | integer n => exact ⟨.ofInt n, rfl⟩
  | real x => exact ⟨x, rfl⟩

theorem exists_unsigned_iff {typeName : String} {value : Value} :
    (∃ n, unsigned typeName (.ofValue value) = .ok n) ↔ value.IsNumber Number.IsWord := by
  constructor
  · rintro ⟨n, h⟩
    cases value with
    | number m =>
        cases m with
        | integer m =>
            rw [Tree.ofValue, unsigned] at h
            split at h
            · rename_i hrange
              exact ⟨_, rfl, hrange⟩
            · cases h
        | real x => cases h
    | _ => cases h
  · rintro ⟨n, rfl, hword⟩
    cases n with
    | integer n => exact ⟨.ofNat n.toNat, if_pos hword⟩
    | real x => exact hword.elim

theorem exists_items_iff {α : Type} {reader : Reader α} {items : List Value} :
    (∃ results,
        List.Forall₂ (fun item result => reader (Tree.ofValue item) = .ok result) items results) ↔
      ∀ item ∈ items, ∃ result, reader (.ofValue item) = .ok result := by
  induction items with
  | nil => exact ⟨fun _ => List.forall_mem_nil _, fun _ => ⟨[], .nil⟩⟩
  | cons item rest ih =>
      rw [List.forall_mem_cons, ← ih]
      constructor
      · rintro ⟨_, hitems⟩
        cases hitems with
        | cons hitem hrest => exact ⟨⟨_, hitem⟩, _, hrest⟩
      · rintro ⟨⟨result, hitem⟩, results, hrest⟩
        exact ⟨result :: results, .cons hitem hrest⟩

theorem exists_list_iff {α : Type} {depth : Nat} {reader : Reader α} {value : Value} :
    (∃ results, list depth reader (.ofValue value) = .ok results) ↔
      0 < depth ∧ value.IsArrayOf fun item => ∃ result, reader (.ofValue item) = .ok result := by
  constructor
  · rintro ⟨results, h⟩
    obtain ⟨hdepth, items, rfl, hitems⟩ := list_eq_ok h
    exact ⟨hdepth, items, rfl, exists_items_iff.mp ⟨results, hitems⟩⟩
  · rintro ⟨hdepth, items, rfl, hitems⟩
    obtain ⟨results, hresults⟩ := exists_items_iff.mpr hitems
    exact ⟨results, list_array hdepth hresults⟩

/-! ## Parts of containers -/

theorem Value.nesting_lt_of_mem_items {items : List Value} {item : Value} (h : item ∈ items) :
    item.nesting < (array items).nesting :=
  Nat.lt_succ_of_le (nestingOfItems_le.mp (Nat.le_refl _) _ h)

theorem Value.nesting_lt_of_mem_members {members : List (String × Value)} {name : String}
    {value : Value} (h : (name, value) ∈ members) : value.nesting < (object members).nesting :=
  Nat.lt_succ_of_le (nestingOfMembers_le.mp (Nat.le_refl _) _ h)

/-! ## Records -/

theorem exists_map_ok_iff {ε α β : Type} {f : α → β} {result : Except ε α} :
    (∃ b, result.map f = .ok b) ↔ ∃ a, result = .ok a := by
  cases result with
  | error e => exact ⟨nofun, nofun⟩
  | ok a => exact ⟨fun _ => ⟨a, rfl⟩, fun _ => ⟨f a, rfl⟩⟩

theorem Slot.name_of {σ α : Type} (name : String) (omission : Omission) (reader : Reader α)
    (fill : α → σ → σ) : (Slot.of name omission reader fill).name = name :=
  rfl

theorem Slot.omission_of {σ α : Type} (name : String) (omission : Omission) (reader : Reader α)
    (fill : α → σ → σ) : (Slot.of name omission reader fill).omission = omission :=
  rfl

/-- Whether a value can be read into the slot does not depend on what has been read before. -/
def Slot.Steady {σ : Type} (slot : Slot σ) : Prop :=
  ∀ tree record other next, slot.read tree record = .ok next →
    ∃ next, slot.read tree other = .ok next

theorem Slot.steady_of {σ α : Type} (name : String) (omission : Omission) (reader : Reader α)
    (fill : α → σ → σ) : (Slot.of name omission reader fill).Steady := by
  intro tree record other next h
  obtain ⟨value, hvalue, _⟩ := Slot.of_read h
  exact ⟨_, Slot.read_of hvalue other⟩

theorem Slot.exists_read_of_iff {σ α : Type} {name : String} {omission : Omission}
    {reader : Reader α} {fill : α → σ → σ} {tree : Tree} {record : σ} :
    (∃ next, (Slot.of name omission reader fill).read tree record = .ok next) ↔
      ∃ value, reader tree = .ok value := by
  refine ⟨fun ⟨next, h⟩ => ?_, fun ⟨value, h⟩ => ⟨_, Slot.read_of h record⟩⟩
  obtain ⟨value, hvalue, _⟩ := Slot.of_read h
  exact ⟨value, hvalue⟩

namespace RecordShape

variable {σ : Type} {shape : RecordShape σ}

/-- The slots are steady and have different names. -/
structure Regular (shape : RecordShape σ) : Prop where
  steady : ∀ slot ∈ shape.slots, slot.Steady
  distinct : (shape.slots.map (·.name)).Nodup

/-- A member that has no slot is passed over. -/
theorem readMembers_cons_of_none {name : String} {value : Value} {rest : List (String × Value)}
    {record : σ} {seen : List String}
    (hnone : (shape.slots.find? fun slot => slot.name == name) = none) :
    shape.readMembers record seen (Members.ofMembers ((name, value) :: rest)) =
      shape.readMembers record seen (Members.ofMembers rest) := by
  rw [Members.ofMembers, readMembers]
  simp only [String.ofList_toList, hnone, Tree.skip_ofValue]
  rfl

/-- A member that was read into a slot, and what was read after it. -/
theorem of_readMembers_cons {name : String} {value : Value} {rest : List (String × Value)}
    {slot : Slot σ} {record : σ} {seen : List String} {result : σ × List String}
    (hslot : (shape.slots.find? fun slot => slot.name == name) = some slot)
    (h : shape.readMembers record seen (Members.ofMembers ((name, value) :: rest)) = .ok result) :
    ∃ next, slot.read (.ofValue value) record = .ok next ∧
      shape.readMembers next (name :: seen) (Members.ofMembers rest) = .ok result := by
  rw [Members.ofMembers, readMembers] at h
  simp only [String.ofList_toList, hslot] at h
  split at h
  · cases h
  · cases hread : slot.read (.ofValue value) record with
    | error e =>
        rw [hread] at h
        cases h
    | ok next =>
        rw [hread] at h
        exact ⟨next, rfl, h⟩

/-- Every member of an object that was read, and that has a slot, was read into it. -/
theorem exists_read_of_readMembers (hslots : (shape.slots.map (·.name)).Nodup) {name : String}
    {value : Value} {slot : Slot σ} (hslot : slot ∈ shape.slots) (hname : slot.name = name) :
    ∀ {members : List (String × Value)} {record : σ} {seen : List String}
      {result : σ × List String}, (name, value) ∈ members →
      shape.readMembers record seen (Members.ofMembers members) = .ok result →
      ∃ before next, slot.read (.ofValue value) before = .ok next
  | (key, other) :: rest, record, seen, result, hmem, h => by
      cases hfind : shape.slots.find? fun slot => slot.name == key with
      | none =>
          -- the first member has no slot, so it is another one
          rw [readMembers_cons_of_none hfind] at h
          refine exists_read_of_readMembers hslots hslot hname (List.mem_of_ne_of_mem ?_ hmem) h
          rintro ⟨⟩
          exact List.find?_eq_none.mp hfind slot hslot (beq_iff_eq.mpr hname)
      | some found =>
          obtain ⟨next, hread, hrest⟩ := of_readMembers_cons hfind h
          rcases List.mem_cons.mp hmem with hfirst | hmem
          · cases hfirst
            rw [← hname, find?_name hslots hslot] at hfind
            cases hfind
            exact ⟨record, next, hread⟩
          · exact exists_read_of_readMembers hslots hslot hname hmem hrest

/-- An object can be read when its names are different and each of its members that has a slot can
be read.  The names of these are met. -/
theorem exists_readMembers (hsteady : ∀ slot ∈ shape.slots, slot.Steady) (blank : σ) :
    ∀ {members : List (String × Value)} (record : σ) {seen : List String},
      (members.map (·.1)).Nodup → (∀ member ∈ members, member.1 ∉ seen) →
      (∀ slot ∈ shape.slots, ∀ value, (slot.name, value) ∈ members →
        ∃ next, slot.read (.ofValue value) blank = .ok next) →
      ∃ result, shape.readMembers record seen (Members.ofMembers members) = .ok result ∧
        (∀ name ∈ seen, name ∈ result.2) ∧
        ∀ slot ∈ shape.slots, ∀ value, (slot.name, value) ∈ members → slot.name ∈ result.2
  | [], record, seen, _, _, _ =>
      ⟨(record, seen), rfl, fun _ hname => hname, fun _ _ _ hmem => nomatch hmem⟩
  | (name, value) :: rest, record, seen, hnames, hnew, hread => by
      rw [List.map_cons, List.nodup_cons] at hnames
      obtain ⟨hfirst, hnewRest⟩ := List.forall_mem_cons.mp hnew
      have hreadRest : ∀ slot ∈ shape.slots, ∀ value, (slot.name, value) ∈ rest →
          ∃ next, slot.read (.ofValue value) blank = .ok next :=
        fun slot hslot value hmem => hread slot hslot value (List.mem_cons_of_mem _ hmem)
      cases hfind : shape.slots.find? fun slot => slot.name == name with
      | none =>
          -- nobody wants the first member
          obtain ⟨result, hresult, hseen, hmet⟩ :=
            exists_readMembers hsteady blank record hnames.2 hnewRest hreadRest
          refine ⟨result, ?_, hseen, fun slot hslot other hmem => ?_⟩
          · rw [readMembers_cons_of_none hfind, hresult]
          · rcases List.mem_cons.mp hmem with hsame | hmem
            · cases hsame
              exact absurd (beq_self_eq_true slot.name) (List.find?_eq_none.mp hfind slot hslot)
            · exact hmet slot hslot other hmem
      | some slot =>
          have hname : slot.name = name := by simpa using List.find?_some hfind
          have hslot := List.mem_of_find?_eq_some hfind
          obtain ⟨_, hblank⟩ := hread slot hslot value (by rw [hname]; exact List.mem_cons_self ..)
          obtain ⟨next, hnext⟩ := hsteady slot hslot _ _ record _ hblank
          have hnewNext : ∀ member ∈ rest, member.1 ∉ name :: seen := by
            intro member hmember hmet
            rcases List.mem_cons.mp hmet with hsame | hmet
            · exact hnames.1 (List.mem_map.mpr ⟨member, hmember, hsame⟩)
            · exact hnewRest member hmember hmet
          obtain ⟨result, hresult, hseen, hmet⟩ :=
            exists_readMembers hsteady blank next hnames.2 hnewNext hreadRest
          refine ⟨result, ?_, fun key hkey => hseen key (List.mem_cons_of_mem _ hkey),
            fun other hother part hmem => ?_⟩
          · rw [readMembers_cons hfind (by simpa using hfirst) hnext, hresult]
          · rcases List.mem_cons.mp hmem with hsame | hmem
            · cases hsame
              exact hseen _ (List.mem_cons_self ..)
            · exact hmet other hother part hmem

/-- A record is read from an object exactly when nothing that may not be left out is missing and
every member that has a slot can be read. -/
theorem exists_read_iff (hregular : shape.Regular) {members : List (String × Value)}
    (hnames : (members.map (·.1)).Nodup) {depth : Nat} (hdepth : 0 < depth) :
    (∃ record, shape.read depth (.ofValue (.object members)) = .ok record) ↔
      (∀ slot ∈ shape.slots, slot.omission = .never → ∃ value, (slot.name, value) ∈ members) ∧
        ∀ slot ∈ shape.slots, ∀ value, (slot.name, value) ∈ members →
          ∃ next, slot.read (.ofValue value) shape.blank = .ok next := by
  constructor
  · rintro ⟨record, h⟩
    constructor
    · -- the names that were met are names of members
      obtain ⟨_, seen, hseen, hmissing⟩ := of_read_object
        (P := fun _ seen => ∀ name ∈ seen, ∃ value, (name, value) ∈ members)
        (fun _ hname => nomatch hname)
        (fun name value hmem _ _ _ _ _ _ hseen _ =>
          List.forall_mem_cons.mpr ⟨⟨value, hmem⟩, hseen⟩) h
      intro slot hslot hnever
      exact hseen slot.name (by simpa using contains_of_missing? hmissing hslot hnever)
    · intro slot hslot value hmem
      rw [Tree.ofValue, read, if_neg (Nat.pos_iff_ne_zero.mp hdepth)] at h
      cases hmembers : shape.readMembers shape.blank [] (Members.ofMembers members) with
      | error e =>
          rw [hmembers] at h
          cases h
      | ok result =>
          obtain ⟨before, next, hread⟩ :=
            exists_read_of_readMembers hregular.distinct hslot rfl hmem hmembers
          exact hregular.steady slot hslot _ _ _ _ hread
  · rintro ⟨hrequired, hread⟩
    obtain ⟨⟨record, seen⟩, hmembers, _, hmet⟩ :=
      exists_readMembers hregular.steady shape.blank shape.blank hnames
        (fun _ _ => List.not_mem_nil) hread
    refine ⟨record, read_object hdepth hmembers ?_⟩
    rw [missing?, Option.map_eq_none_iff, List.find?_eq_none]
    intro slot hslot
    by_cases hnever : slot.omission = .never
    · obtain ⟨value, hmem⟩ := hrequired slot hslot hnever
      simpa using fun _ => hmet slot hslot value hmem
    · simp [hnever]

end RecordShape

end BankStatement.Json
