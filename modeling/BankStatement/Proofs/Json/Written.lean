import BankStatement.Json.Printer
import BankStatement.Json.Tree
import BankStatement.Proofs.Json.Trees

/-!
# Written values

A value may be written in many ways: blanks may stand around the items and members of its
containers (`Value.Written`).  Both layouts in which values are printed are such texts
(`Value.written_compact`, `Value.written_indented`), so that what holds of all texts of a value need
not be said of each layout.
-/

namespace BankStatement.Json

/-! ## Blanks -/

/-- Whether a text is made of blanks. -/
def IsBlanks (text : List Char) : Prop :=
  ∀ c ∈ text, Tree.isBlank c = true

theorem isBlanks_nil : IsBlanks [] :=
  fun _ hc => by cases hc

theorem isBlanks_space : IsBlanks [' '] := by
  intro c hc
  rw [List.mem_singleton.mp hc]
  rfl

theorem isBlanks_newLine (level : Nat) : IsBlanks (newLine level) := by
  intro c hc
  rcases List.mem_cons.mp hc with rfl | hc
  · rfl
  · rw [List.eq_of_mem_replicate hc]
    rfl

/-! ## Texts of values -/

namespace Value

mutual

/-- Whether a text writes a value, with any blanks around the items and members of containers.  The
numbers are those that documents can hold, and written as they are printed. -/
inductive Written : Value → List Char → Prop
  | null : Written .null ['n', 'u', 'l', 'l']
  | yes : Written (.bool true) ['t', 'r', 'u', 'e']
  | no : Written (.bool false) ['f', 'a', 'l', 's', 'e']
  | number {n : Number} (hfits : n.Fits) : Written (.number n) n.print
  | string (s : String) : Written (.string s) (printString s.toList)
  | noItems : Written (.array []) ['[', ']']
  | array {values : List Value} {text : List Char} (h : ItemsWritten values text) :
      Written (.array values) ('[' :: (text ++ [']']))
  | noMembers : Written (.object []) ['\x7b', '\x7d']
  | object {members : List (String × Value)} {text : List Char} (h : MembersWritten members text) :
      Written (.object members) ('\x7b' :: (text ++ ['\x7d']))

/-- Items, at least one, with commas between them. -/
inductive ItemsWritten : List Value → List Char → Prop
  | last {value : Value} {before text after : List Char} (hbefore : IsBlanks before)
      (hafter : IsBlanks after) (h : Written value text) :
      ItemsWritten [value] (before ++ (text ++ after))
  | next {value : Value} {values : List Value} {before text after more : List Char}
      (hbefore : IsBlanks before) (hafter : IsBlanks after) (h : Written value text)
      (hrest : ItemsWritten values more) :
      ItemsWritten (value :: values) (before ++ (text ++ (after ++ ',' :: more)))

/-- Members, at least one, with commas between them. -/
inductive MembersWritten : List (String × Value) → List Char → Prop
  | last (key : String) {value : Value} {before space text after : List Char}
      (hbefore : IsBlanks before) (hspace : IsBlanks space) (hafter : IsBlanks after)
      (h : Written value text) :
      MembersWritten [(key, value)]
        (before ++ (printString key.toList ++ ':' :: (space ++ (text ++ after))))
  | next (key : String) {value : Value} {members : List (String × Value)}
      {before space text after more : List Char} (hbefore : IsBlanks before)
      (hspace : IsBlanks space) (hafter : IsBlanks after) (h : Written value text)
      (hrest : MembersWritten members more) :
      MembersWritten ((key, value) :: members)
        (before ++ (printString key.toList ++ ':' :: (space ++ (text ++ (after ++ ',' :: more)))))

end

/-! ## The compact layout -/

mutual

theorem written_compact : ∀ {value : Value}, value.Fits → value.Written value.compact
  | .null, _ => .null
  | .bool true, _ => .yes
  | .bool false, _ => .no
  | .number _, hfits => .number hfits
  | .string s, _ => .string s
  | .array [], _ => .noItems
  | .array (_ :: _), hfits => .array (itemsWritten_compact (List.cons_ne_nil _ _) hfits)
  | .object [], _ => .noMembers
  | .object (_ :: _), hfits => .object (membersWritten_compact (List.cons_ne_nil _ _) hfits)

theorem itemsWritten_compact : ∀ {values : List Value}, values ≠ [] → fitsItems values →
    ItemsWritten values (compactItems values)
  | [], hne, _ => absurd rfl hne
  | [value], _, ⟨hfits, _⟩ => by
      have hitems := ItemsWritten.last isBlanks_nil isBlanks_nil (written_compact hfits)
      rwa [List.append_nil] at hitems
  | _ :: _ :: _, _, ⟨hfits, hrest⟩ =>
      .next isBlanks_nil isBlanks_nil (written_compact hfits)
        (itemsWritten_compact (List.cons_ne_nil _ _) hrest)

theorem membersWritten_compact : ∀ {members : List (String × Value)}, members ≠ [] →
    fitsMembers members → MembersWritten members (compactMembers members)
  | [], hne, _ => absurd rfl hne
  | [(key, value)], _, ⟨hfits, _⟩ => by
      have hmembers := MembersWritten.last key isBlanks_nil isBlanks_nil isBlanks_nil
        (written_compact hfits)
      rwa [List.append_nil] at hmembers
  | (key, value) :: next :: rest, _, ⟨hfits, hrest⟩ => by
      have hmembers := MembersWritten.next key isBlanks_nil isBlanks_nil isBlanks_nil
        (written_compact hfits) (membersWritten_compact (List.cons_ne_nil next rest) hrest)
      rw [compactMembers, List.append_assoc]
      exact hmembers

end

/-! ## The indented layout -/

mutual

theorem written_indented : ∀ {value : Value}, value.Fits → ∀ level : Nat,
    value.Written (value.indented level)
  | .null, _, _ => .null
  | .bool true, _, _ => .yes
  | .bool false, _, _ => .no
  | .number _, hfits, _ => .number hfits
  | .string s, _, _ => .string s
  | .array [], _, _ => .noItems
  | .array (value :: rest), hfits, level => by
      have hitems := itemsWritten_indented (List.cons_ne_nil value rest) hfits (level + 1)
        (isBlanks_newLine level)
      rw [indented]
      exact .array hitems
  | .object [], _, _ => .noMembers
  | .object (member :: rest), hfits, level => by
      have hmembers := membersWritten_indented (List.cons_ne_nil member rest) hfits (level + 1)
        (isBlanks_newLine level)
      rw [indented]
      exact .object hmembers

/-- Indented items have a new line before each, and may have blanks after the last. -/
theorem itemsWritten_indented : ∀ {values : List Value}, values ≠ [] → fitsItems values →
    ∀ (level : Nat) {after : List Char}, IsBlanks after →
      ItemsWritten values (indentedItems level values ++ after)
  | [], hne, _, _, _, _ => absurd rfl hne
  | [value], _, ⟨hfits, _⟩, level, after, hafter => by
      rw [indentedItems, List.append_assoc]
      exact .last (isBlanks_newLine level) hafter (written_indented hfits level)
  | value :: next :: rest, _, ⟨hfits, hrest⟩, level, after, hafter => by
      rw [indentedItems, List.append_assoc, List.append_assoc]
      exact .next (isBlanks_newLine level) isBlanks_nil (written_indented hfits level)
        (itemsWritten_indented (List.cons_ne_nil next rest) hrest level hafter)

theorem membersWritten_indented : ∀ {members : List (String × Value)}, members ≠ [] →
    fitsMembers members → ∀ (level : Nat) {after : List Char}, IsBlanks after →
      MembersWritten members (indentedMembers level members ++ after)
  | [], hne, _, _, _, _ => absurd rfl hne
  | [(key, value)], _, ⟨hfits, _⟩, level, after, hafter => by
      rw [indentedMembers, List.append_assoc, List.append_assoc]
      exact .last key (isBlanks_newLine level) isBlanks_space hafter (written_indented hfits level)
  | (key, value) :: next :: rest, _, ⟨hfits, hrest⟩, level, after, hafter => by
      rw [indentedMembers, List.append_assoc, List.append_assoc, List.append_assoc]
      exact .next key (isBlanks_newLine level) isBlanks_space isBlanks_nil
        (written_indented hfits level)
        (membersWritten_indented (List.cons_ne_nil next rest) hrest level hafter)

end

end Value

end BankStatement.Json
