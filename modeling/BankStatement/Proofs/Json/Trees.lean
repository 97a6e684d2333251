import BankStatement.Json.Reading
import BankStatement.Proofs.Json.Numbers

/-!
# Trees and their values

A tree without tears holds a value (`Tree.Holds`), with the members of its objects in the order of
the text.  Reading the tree sorts them by their names (`Value.sorted`).  It succeeds on trees
without tears that are nested no deeper than the containers that may be entered, and on no others
(`Tree.toValue_of_holds`, `Tree.holds_of_toValue`).  So what can be said of the values that are read
is said of sorted values: how deep they are nested, and which numbers they have.
-/

namespace BankStatement.Json

/-! ## Trees without tears -/

mutual

/-- The tree holds the value. -/
inductive Tree.Holds : Tree → Value → Prop
  | null : Tree.Holds .null .null
  | bool (b : Bool) : Tree.Holds (.bool b) (.bool b)
  | number (n : Number) : Tree.Holds (.number (.ok n)) (.number n)
  | string (s : List Char) : Tree.Holds (.string (.ok s)) (.string (String.ofList s))
  | array (start : List Char) {items : Items} {values : List Value} (h : Items.Holds items values) :
      Tree.Holds (.array start items) (.array values)
  | object (start : List Char) {members : Members} {values : List (String × Value)}
      (h : Members.Holds members values) : Tree.Holds (.object start members) (.object values)

inductive Items.Holds : Items → List Value → Prop
  | close : Items.Holds .close []
  | item (start : List Char) {tree : Tree} {value : Value} {rest : Items} {values : List Value}
      (h : Tree.Holds tree value) (hrest : Items.Holds rest values) :
      Items.Holds (.item start tree rest) (value :: values)

inductive Members.Holds : Members → List (String × Value) → Prop
  | close : Members.Holds .close []
  | member (key : List Char) {tree : Tree} {value : Value} {rest : Members}
      {values : List (String × Value)} (h : Tree.Holds tree value)
      (hrest : Members.Holds rest values) :
      Members.Holds (.member (.ok key) tree rest) ((String.ofList key, value) :: values)

end

mutual

theorem Tree.holds_ofValue : ∀ value : Value, (Tree.ofValue value).Holds value
  | .null => .null
  | .bool b => .bool b
  | .number n => .number n
  | .string s => by
      have hholds := Tree.Holds.string s.toList
      rwa [String.ofList_toList] at hholds
  | .array items => .array [] (Items.holds_ofValues items)
  | .object members => .object [] (Members.holds_ofMembers members)

theorem Items.holds_ofValues : ∀ values : List Value, (Items.ofValues values).Holds values
  | [] => .close
  | value :: rest => .item [] (Tree.holds_ofValue value) (Items.holds_ofValues rest)

theorem Members.holds_ofMembers : ∀ members : List (String × Value),
    (Members.ofMembers members).Holds members
  | [] => .close
  | (key, value) :: rest => by
      have hholds := Members.Holds.member key.toList (Tree.holds_ofValue value)
        (Members.holds_ofMembers rest)
      rwa [String.ofList_toList] at hholds

end

/-! ## Sorted values -/

mutual

/-- The value with the members of objects in ascending order of their names; of members of one name
the last counts. -/
def Value.sorted : Value → Value
  | .array items => .array (sortedItems items)
  | .object members => .object (sortMembers [] members)
  | .null => .null
  | .bool b => .bool b
  | .number n => .number n
  | .string s => .string s

def Value.sortedItems : List Value → List Value
  | [] => []
  | value :: rest => value.sorted :: sortedItems rest

/-- The members so far, in order, with those that follow. -/
def Value.sortMembers (sofar : List (String × Value)) :
    List (String × Value) → List (String × Value)
  | [] => sofar
  | (name, value) :: rest => sortMembers (insertMember name value.sorted sofar) rest

end

theorem Value.sortedItems_eq_map (items : List Value) : sortedItems items = items.map sorted := by
  induction items with
  | nil => rfl
  | cons value rest ih => rw [sortedItems, ih, List.map_cons]

mutual

/-- A tree that holds a value is read as that value, sorted. -/
theorem Tree.toValue_of_holds : ∀ {tree : Tree} {value : Value}, tree.Holds value →
    ∀ {depth : Nat}, value.nesting ≤ depth → tree.toValue depth = .ok value.sorted
  | _, _, .null, _, _ => rfl
  | _, _, .bool b, _, _ => rfl
  | _, _, .number n, _, _ => rfl
  | _, _, .string s, _, _ => rfl
  | _, _, .array start hitems, depth, hdepth => by
      unfold Value.nesting at hdepth
      obtain ⟨inner, rfl⟩ : ∃ inner, depth = inner + 1 := ⟨depth - 1, by omega⟩
      rw [Tree.toValue, Items.toValues_of_holds hitems (by omega), Value.sorted]
      rfl
  | _, _, .object start hmembers, depth, hdepth => by
      unfold Value.nesting at hdepth
      obtain ⟨inner, rfl⟩ : ∃ inner, depth = inner + 1 := ⟨depth - 1, by omega⟩
      rw [Tree.toValue, Members.toMembers_of_holds hmembers (by omega), Value.sorted]
      rfl

theorem Items.toValues_of_holds : ∀ {items : Items} {values : List Value}, items.Holds values →
    ∀ {depth : Nat}, Value.nestingOfItems values ≤ depth →
      items.toValues depth = .ok (Value.sortedItems values)
  | _, _, .close, _, _ => rfl
  | _, _, .item start h hrest, depth, hdepth => by
      unfold Value.nestingOfItems at hdepth
      rw [Items.toValues, Tree.toValue_of_holds h (by omega),
        Items.toValues_of_holds hrest (by omega), Value.sortedItems]
      rfl

theorem Members.toMembers_of_holds : ∀ {members : Members} {values : List (String × Value)},
    members.Holds values → ∀ {depth : Nat} {sofar : List (String × Value)},
      Value.nestingOfMembers values ≤ depth →
      members.toMembers depth sofar = .ok (Value.sortMembers sofar values)
  | _, _, .close, _, _, _ => rfl
  | _, _, .member key h hrest, depth, sofar, hdepth => by
      unfold Value.nestingOfMembers at hdepth
      rw [Members.toMembers, Value.sortMembers]
      simp only [Tree.toValue_of_holds h (Nat.le_trans (Nat.le_max_left ..) hdepth)]
      exact Members.toMembers_of_holds hrest (by omega)

end

mutual

/-- A value is read only from a tree that holds it, up to the order of members, and that is nested
no deeper than the containers that may be entered. -/
theorem Tree.holds_of_toValue : ∀ {tree : Tree} {depth : Nat} {value : Value},
    tree.toValue depth = .ok value →
      ∃ raw, tree.Holds raw ∧ raw.nesting ≤ depth ∧ raw.sorted = value
  | .null, _, _, h => by
      cases h
      exact ⟨_, .null, Nat.zero_le _, rfl⟩
  | .bool b, _, _, h => by
      cases h
      exact ⟨_, .bool b, Nat.zero_le _, rfl⟩
  | .number (.ok n), _, _, h => by
      cases h
      exact ⟨_, .number n, Nat.zero_le _, rfl⟩
  | .string (.ok s), _, _, h => by
      cases h
      exact ⟨_, .string s, Nat.zero_le _, rfl⟩
  | .number (.error fault), _, _, h => by cases h
  | .string (.error fault), _, _, h => by cases h
  | .torn read skip, _, _, h => by cases h
  | .array start items, 0, _, h => by cases h
  | .array start items, depth + 1, _, h => by
      simp only [Tree.toValue] at h
      cases hitems : items.toValues depth with
      | error e =>
          rw [hitems] at h
          cases h
      | ok values =>
          rw [hitems] at h
          cases h
          obtain ⟨raw, hholds, hdepth, rfl⟩ := Items.holds_of_toValues hitems
          exact ⟨.array raw, .array start hholds, Nat.succ_le_succ hdepth, rfl⟩
  | .object start members, 0, _, h => by cases h
  | .object start members, depth + 1, _, h => by
      simp only [Tree.toValue] at h
      cases hmembers : members.toMembers depth [] with
      | error e =>
          rw [hmembers] at h
          cases h
      | ok values =>
          rw [hmembers] at h
          cases h
          obtain ⟨raw, hholds, hdepth, rfl⟩ := Members.holds_of_toMembers hmembers
          exact ⟨.object raw, .object start hholds, Nat.succ_le_succ hdepth, rfl⟩

theorem Items.holds_of_toValues : ∀ {items : Items} {depth : Nat} {values : List Value},
    items.toValues depth = .ok values →
      ∃ raw, items.Holds raw ∧ Value.nestingOfItems raw ≤ depth ∧ Value.sortedItems raw = values
  | .close, _, _, h => by
      cases h
      exact ⟨[], .close, Nat.zero_le _, rfl⟩
  | .torn read skip surplus, _, _, h => by cases h
  | .item start tree rest, depth, _, h => by
      simp only [Items.toValues] at h
      cases htree : tree.toValue depth with
      | error e =>
          rw [htree] at h
          cases h
      | ok value =>
          cases hrest : rest.toValues depth with
          | error e =>
              rw [htree, hrest] at h
              cases h
          | ok values =>
              rw [htree, hrest] at h
              cases h
              obtain ⟨raw, hholds, hdepth, rfl⟩ := Tree.holds_of_toValue htree
              obtain ⟨raws, hrests, hdepths, rfl⟩ := Items.holds_of_toValues hrest
              exact ⟨raw :: raws, .item start hholds hrests, Nat.max_le.mpr ⟨hdepth, hdepths⟩, rfl⟩

theorem Members.holds_of_toMembers : ∀ {members : Members} {depth : Nat}
    {sofar values : List (String × Value)}, members.toMembers depth sofar = .ok values →
      ∃ raw, members.Holds raw ∧ Value.nestingOfMembers raw ≤ depth ∧
        Value.sortMembers sofar raw = values
  | .close, _, _, _, h => by
      cases h
      exact ⟨[], .close, Nat.zero_le _, rfl⟩
  | .torn read skip, _, _, _, h => by cases h
  | .noColon (.ok key) fault, _, _, _, h => by cases h
  | .noColon (.error keyFault) fault, _, _, _, h => by cases h
  | .member (.error fault) tree rest, _, _, _, h => by cases h
  | .member (.ok key) tree rest, depth, sofar, _, h => by
      simp only [Members.toMembers] at h
      cases htree : tree.toValue depth with
      | error e =>
          rw [htree] at h
          cases h
      | ok value =>
          rw [htree] at h
          obtain ⟨raw, hholds, hdepth, rfl⟩ := Tree.holds_of_toValue htree
          obtain ⟨raws, hrests, hdepths, hvalues⟩ := Members.holds_of_toMembers h
          exact ⟨(String.ofList key, raw) :: raws, .member key hholds hrests,
            Nat.max_le.mpr ⟨hdepth, hdepths⟩, hvalues⟩

end

/-! ## Numbers as values -/

namespace Value

theorem ofBinary64_of_isFinite {x : Binary64} (h : x.isFinite = true) :
    ofBinary64 x = number (.real x) :=
  if_pos h

theorem sorted_ofBinary64 (x : Binary64) : (ofBinary64 x).sorted = ofBinary64 x := by
  unfold ofBinary64
  split <;> rfl

theorem nesting_ofBinary64 (x : Binary64) : (ofBinary64 x).nesting = 0 := by
  unfold ofBinary64
  split <;> rfl

end Value

/-! ## Nesting of sorted values -/

namespace Value

theorem nestingOfItems_le {items : List Value} {depth : Nat} :
    nestingOfItems items ≤ depth ↔ ∀ value ∈ items, value.nesting ≤ depth := by
  induction items with
  | nil => simp [nestingOfItems]
  | cons value rest ih => rw [nestingOfItems, Nat.max_le, ih, List.forall_mem_cons]

theorem nestingOfMembers_le {members : List (String × Value)} {depth : Nat} :
    nestingOfMembers members ≤ depth ↔ ∀ member ∈ members, member.2.nesting ≤ depth := by
  induction members with
  | nil => simp [nestingOfMembers]
  | cons member rest ih =>
      obtain ⟨name, value⟩ := member
      rw [nestingOfMembers, Nat.max_le, ih, List.forall_mem_cons]

/-- One more member nests no deeper than its value and the others. -/
theorem nestingOfMembers_insertMember (name : String) (value : Value)
    (members : List (String × Value)) :
    nestingOfMembers (insertMember name value members) ≤
      max value.nesting (nestingOfMembers members) := by
  induction members with
  | nil => exact Nat.le_refl _
  | cons member rest ih =>
      obtain ⟨key, other⟩ := member
      simp only [insertMember]
      split
      · exact Nat.le_refl _
      · split
        · simp only [nestingOfMembers]
          omega
        · simp only [nestingOfMembers]
          omega

mutual

/-- Sorting does not nest a value deeper. -/
theorem nesting_sorted_le : ∀ value : Value, value.sorted.nesting ≤ value.nesting
  | null | bool _ | number _ | string _ => Nat.le_refl _
  | array items => Nat.succ_le_succ (nestingOfItems_sortedItems_le items)
  | object members => by
      have := nestingOfMembers_sortMembers_le [] members
      simp only [sorted, nesting]
      simp only [nestingOfMembers] at this
      omega

theorem nestingOfItems_sortedItems_le : ∀ items : List Value,
    nestingOfItems (sortedItems items) ≤ nestingOfItems items
  | [] => Nat.le_refl _
  | value :: rest => by
      have := nesting_sorted_le value
      have := nestingOfItems_sortedItems_le rest
      simp only [sortedItems, nestingOfItems]
      omega

theorem nestingOfMembers_sortMembers_le (sofar : List (String × Value)) :
    ∀ members : List (String × Value), nestingOfMembers (sortMembers sofar members) ≤
      max (nestingOfMembers sofar) (nestingOfMembers members)
  | [] => Nat.le_max_left ..
  | (name, value) :: rest => by
      have := nesting_sorted_le value
      have := nestingOfMembers_insertMember name value.sorted sofar
      have := nestingOfMembers_sortMembers_le (insertMember name value.sorted sofar) rest
      simp only [sortMembers, nestingOfMembers]
      omega

end

end Value

/-! ## Numbers of trees and values -/

mutual

/-- The numbers of the tree are numbers that documents can hold. -/
def Tree.Fits : Tree → Prop
  | .number (.ok n) => n.Fits
  | .array _ items => items.Fits
  | .object _ members => members.Fits
  | _ => True

def Items.Fits : Items → Prop
  | .item _ tree rest => tree.Fits ∧ rest.Fits
  | _ => True

def Members.Fits : Members → Prop
  | .member _ tree rest => tree.Fits ∧ rest.Fits
  | _ => True

end

mutual

/-- The numbers of the value are numbers that documents can hold. -/
def Value.Fits : Value → Prop
  | .number n => n.Fits
  | .array items => fitsItems items
  | .object members => fitsMembers members
  | _ => True

def Value.fitsItems : List Value → Prop
  | [] => True
  | value :: rest => value.Fits ∧ fitsItems rest

def Value.fitsMembers : List (String × Value) → Prop
  | [] => True
  | (_, value) :: rest => value.Fits ∧ fitsMembers rest

end

mutual

/-- A tree has the numbers of the value that it holds. -/
theorem Tree.fits_of_holds : ∀ {tree : Tree} {value : Value}, tree.Holds value → tree.Fits →
    value.Fits
  | _, _, .null, _ => trivial
  | _, _, .bool _, _ => trivial
  | _, _, .number _, hfits => hfits
  | _, _, .string _, _ => trivial
  | _, _, .array _ h, hfits => Items.fits_of_holds h hfits
  | _, _, .object _ h, hfits => Members.fits_of_holds h hfits

theorem Items.fits_of_holds : ∀ {items : Items} {values : List Value}, items.Holds values →
    items.Fits → Value.fitsItems values
  | _, _, .close, _ => trivial
  | _, _, .item _ h hrest, ⟨hfits, hfitsRest⟩ =>
      ⟨Tree.fits_of_holds h hfits, Items.fits_of_holds hrest hfitsRest⟩

theorem Members.fits_of_holds : ∀ {members : Members} {values : List (String × Value)},
    members.Holds values → members.Fits → Value.fitsMembers values
  | _, _, .close, _ => trivial
  | _, _, .member _ h hrest, ⟨hfits, hfitsRest⟩ =>
      ⟨Tree.fits_of_holds h hfits, Members.fits_of_holds hrest hfitsRest⟩

end

mutual

theorem Tree.fits_ofValue : ∀ {value : Value}, value.Fits → (Tree.ofValue value).Fits
  | .null, _ | .bool _, _ | .string _, _ => trivial
  | .number _, hfits => hfits
  | .array _, hfits => Items.fits_ofValues hfits
  | .object _, hfits => Members.fits_ofMembers hfits

theorem Items.fits_ofValues : ∀ {values : List Value}, Value.fitsItems values →
    (Items.ofValues values).Fits
  | [], _ => trivial
  | _ :: _, ⟨hfits, hrest⟩ => ⟨Tree.fits_ofValue hfits, Items.fits_ofValues hrest⟩

theorem Members.fits_ofMembers : ∀ {values : List (String × Value)}, Value.fitsMembers values →
    (Members.ofMembers values).Fits
  | [], _ => trivial
  | (_, _) :: _, ⟨hfits, hrest⟩ => ⟨Tree.fits_ofValue hfits, Members.fits_ofMembers hrest⟩

end

namespace Value

theorem fitsItems_iff {items : List Value} : fitsItems items ↔ ∀ value ∈ items, value.Fits := by
  induction items with
  | nil => simp [fitsItems]
  | cons value rest ih => rw [fitsItems, ih, List.forall_mem_cons]

theorem fitsMembers_iff {members : List (String × Value)} :
    fitsMembers members ↔ ∀ value ∈ members.map (·.2), value.Fits := by
  induction members with
  | nil => simp [fitsMembers]
  | cons member rest ih =>
      obtain ⟨name, value⟩ := member
      rw [fitsMembers, ih, List.map_cons, List.forall_mem_cons]

theorem fits_natural (n : UInt64) : (natural n.toNat).Fits := by
  have := n.toNat_lt
  show -(2 ^ 63) ≤ (n.toNat : Int) ∧ (n.toNat : Int) < 2 ^ 64
  omega

theorem fitsMembers_insertMember {name : String} {value : Value} (hvalue : value.Fits)
    {members : List (String × Value)} (hmembers : fitsMembers members) :
    fitsMembers (insertMember name value members) := by
  induction members with
  | nil => exact ⟨hvalue, trivial⟩
  | cons member rest ih =>
      obtain ⟨key, other⟩ := member
      obtain ⟨hother, hrest⟩ := hmembers
      simp only [insertMember]
      split
      · exact ⟨hvalue, hother, hrest⟩
      · split
        · exact ⟨hvalue, hrest⟩
        · exact ⟨hother, ih hrest⟩

mutual

theorem fits_sorted : ∀ {value : Value}, value.Fits → value.sorted.Fits
  | null, _ | bool _, _ | string _, _ => trivial
  | number _, hfits => hfits
  | array _, hfits => fitsItems_sortedItems hfits
  | object _, hfits => fitsMembers_sortMembers trivial hfits

theorem fitsItems_sortedItems : ∀ {items : List Value}, fitsItems items →
    fitsItems (sortedItems items)
  | [], _ => trivial
  | _ :: _, ⟨hfits, hrest⟩ => ⟨fits_sorted hfits, fitsItems_sortedItems hrest⟩

theorem fitsMembers_sortMembers : ∀ {sofar members : List (String × Value)}, fitsMembers sofar →
    fitsMembers members → fitsMembers (sortMembers sofar members)
  | _, [], hsofar, _ => hsofar
  | _, (_, _) :: _, hsofar, ⟨hfits, hrest⟩ => by
      simp only [sortMembers]
      exact fitsMembers_sortMembers (fitsMembers_insertMember (fits_sorted hfits) hsofar) hrest

end

end Value

end BankStatement.Json
