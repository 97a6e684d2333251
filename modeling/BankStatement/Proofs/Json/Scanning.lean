import BankStatement.Proofs.Json.Strings
import BankStatement.Proofs.Json.Written

/-!
# Scanning texts

Whatever a text is, scanning it gives a tree with numbers that documents can hold
(`Tree.fits_scanValue`).  Scanning a text that writes a value gives a tree that holds the value, and
what follows the value is left (`Tree.scanValue_written`).  So an indented value is read back,
sorted, when it is not nested too deep (`Value.ofText_toIndentedText`).

## Strategy

The second half has one lemma for each way on from an item or a member: to the bracket that closes,
or over a comma to the next one.  The induction is on how the value is written.  Entering a
container takes fuel twice, for the container and for its first part, and every other step once; so
twice as much as there are characters left is enough.
-/

namespace BankStatement.Json

/-! ## Numbers of scanned trees -/

namespace Tree

theorem fits_scanName {value : Tree} (hvalue : value.Fits) (name text : List Char) :
    (scanName value name text).1.Fits := by
  fun_induction scanName value name text with
  | case1 => exact hvalue
  | case2 => trivial
  | case3 _ _ _ ih => exact ih
  | case4 => trivial

theorem fits_scanString (text : List Char) : (scanString text).1.Fits := by
  unfold scanString
  split <;> trivial

theorem fits_scanNumberTree (text : List Char) : (scanNumberTree text).1.Fits := by
  unfold scanNumberTree
  split
  · rename_i value rest hscan
    cases value with
    | ok n => exact fits_of_scanNumber hscan
    | error fault => trivial
  · trivial

mutual

/-- Scanning gives no other numbers than those that documents can hold. -/
theorem fits_scanValue : ∀ (fuel : Nat) (text : List Char), (scanValue fuel text).1.Fits
  | 0, _ => trivial
  | _ + 1, [] => trivial
  | fuel + 1, c :: rest => by
      simp only [scanValue]
      split
      · exact fits_scanName (by trivial) ..
      · exact fits_scanName (by trivial) ..
      · exact fits_scanName (by trivial) ..
      · exact fits_scanString rest
      · split
        · trivial
        · trivial
        · exact fits_scanItems fuel _
      · split
        · trivial
        · trivial
        · exact fits_scanMembers fuel _
      · split
        · exact fits_scanNumberTree _
        · trivial

theorem fits_scanItems : ∀ (fuel : Nat) (text : List Char), (scanItems fuel text).1.Fits
  | 0, _ => trivial
  | fuel + 1, text => by
      have hvalue := fits_scanValue fuel text
      simp only [scanItems]
      split
      · rename_i heq
        rw [heq] at hvalue
        exact ⟨hvalue, trivial⟩
      · rename_i heq
        rw [heq] at hvalue
        split
        · exact ⟨hvalue, trivial⟩
        · exact ⟨hvalue, trivial⟩
        · split
          · exact ⟨hvalue, trivial⟩
          · exact ⟨hvalue, trivial⟩
          · exact ⟨hvalue, fits_scanItems fuel _⟩
        · exact ⟨hvalue, trivial⟩

theorem fits_scanMembers : ∀ (fuel : Nat) (text : List Char), (scanMembers fuel text).1.Fits
  | 0, _ => trivial
  | fuel + 1, text => by
      unfold scanMembers
      split
      · trivial
      · rename_i fuel content hfuel
        cases hfuel
        split
        · trivial
        · simp only
          split
          · trivial
          · rename_i afterColon _
            have hvalue := fits_scanValue fuel (skipBlanks afterColon)
            split
            · rename_i heq
              rw [heq] at hvalue
              exact ⟨hvalue, trivial⟩
            · rename_i heq
              rw [heq] at hvalue
              split
              · exact ⟨hvalue, trivial⟩
              · exact ⟨hvalue, trivial⟩
              · split
                · exact ⟨hvalue, trivial⟩
                · exact ⟨hvalue, trivial⟩
                · exact ⟨hvalue, fits_scanMembers fuel _⟩
              · exact ⟨hvalue, trivial⟩
          · trivial
      · trivial

end

/-! ## Blanks -/

theorem skipBlanks_of_not_blank {c : Char} (h : isBlank c = false) (rest : List Char) :
    skipBlanks (c :: rest) = c :: rest :=
  List.dropWhile_cons_of_neg (by simp [h])

theorem skipBlanks_append {before : List Char} (h : IsBlanks before) (text : List Char) :
    skipBlanks (before ++ text) = skipBlanks text :=
  List.dropWhile_append_of_pos h

/-- Blanks before a character that is none. -/
theorem skipBlanks_before {before : List Char} (h : IsBlanks before) {c : Char}
    (hc : isBlank c = false) (rest : List Char) : skipBlanks (before ++ c :: rest) = c :: rest := by
  rw [skipBlanks_append h, skipBlanks_of_not_blank hc]

/-! ## Steps of scanning -/

/-- A text that begins with an item or a member: neither with a blank nor with a closing bracket. -/
def StartsPart (text : List Char) : Prop :=
  ∃ c rest, text = c :: rest ∧ isBlank c = false ∧ c ≠ ']' ∧ c ≠ '\x7d'

theorem StartsPart.skipBlanks {text : List Char} (h : StartsPart text) (rest : List Char) :
    skipBlanks (text ++ rest) = text ++ rest := by
  obtain ⟨c, tail, rfl, hblank, _⟩ := h
  exact skipBlanks_of_not_blank hblank _

theorem StartsPart.append {text : List Char} (h : StartsPart text) (rest : List Char) :
    StartsPart (text ++ rest) := by
  obtain ⟨c, tail, rfl, hc⟩ := h
  exact ⟨c, tail ++ rest, rfl, hc⟩

variable (fuel : Nat)

theorem scanValue_array {inner first : List Char} (hskip : skipBlanks inner = first)
    (hfirst : StartsPart first) :
    scanValue (fuel + 1) ('[' :: inner) =
      (.array ('[' :: inner) (scanItems fuel first).1, (scanItems fuel first).2) := by
  obtain ⟨c, rest, rfl, _, hbracket, _⟩ := hfirst
  simp only [scanValue, hskip]
  split
  · rename_i heq
    cases heq
  · rename_i heq
    exact absurd (List.cons.inj heq).1 hbracket
  · rfl

theorem scanValue_object {inner first : List Char} (hskip : skipBlanks inner = first)
    (hfirst : StartsPart first) :
    scanValue (fuel + 1) ('\x7b' :: inner) =
      (.object ('\x7b' :: inner) (scanMembers fuel first).1, (scanMembers fuel first).2) := by
  obtain ⟨c, rest, rfl, _, _, hbrace⟩ := hfirst
  simp only [scanValue, hskip]
  split
  · rename_i heq
    cases heq
  · rename_i heq
    exact absurd (List.cons.inj heq).1 hbrace
  · rfl

variable {fuel}

/-- A value that is followed by a closing bracket is the last item. -/
theorem scanItems_last {text rest after : List Char} {value : Tree}
    (hvalue : scanValue fuel text = (value, some rest)) (hskip : skipBlanks rest = ']' :: after) :
    scanItems (fuel + 1) text = (.item text value .close, some after) := by
  simp only [scanItems, hvalue, hskip]

/-- A value that is followed by a comma is followed by another item. -/
theorem scanItems_next {text rest after next : List Char} {value : Tree}
    (hvalue : scanValue fuel text = (value, some rest)) (hskip : skipBlanks rest = ',' :: after)
    (hnextSkip : skipBlanks after = next) (hnext : StartsPart next) :
    scanItems (fuel + 1) text =
      (.item text value (scanItems fuel next).1, (scanItems fuel next).2) := by
  obtain ⟨c, tail, rfl, _, hbracket, _⟩ := hnext
  simp only [scanItems, hvalue, hskip, hnextSkip]
  split
  · rename_i heq
    cases heq
  · rename_i heq
    exact absurd (List.cons.inj heq).1 hbracket
  · rfl

/-- A member whose value is followed by a closing brace is the last one. -/
theorem scanMembers_last (key : List Char) {text rest after : List Char} {value : Tree}
    (hvalue : scanValue fuel (skipBlanks text) = (value, some rest))
    (hskip : skipBlanks rest = '\x7d' :: after) :
    scanMembers (fuel + 1) (printString key ++ ':' :: text) =
      (.member (.ok key) value .close, some after) := by
  have hcolon : skipBlanks (':' :: text) = ':' :: text := skipBlanks_of_not_blank (by decide) _
  rw [show printString key ++ ':' :: text = '"' :: (key.flatMap escapeChar ++ '"' :: ':' :: text) by
    simp [printString]]
  simp only [scanMembers, skipString_escaped, readString_escaped, hcolon, hvalue, hskip]

/-- A member whose value is followed by a comma is followed by another one. -/
theorem scanMembers_next (key : List Char) {text rest after next : List Char} {value : Tree}
    (hvalue : scanValue fuel (skipBlanks text) = (value, some rest))
    (hskip : skipBlanks rest = ',' :: after) (hnextSkip : skipBlanks after = next)
    (hnext : StartsPart next) :
    scanMembers (fuel + 1) (printString key ++ ':' :: text) =
      (.member (.ok key) value (scanMembers fuel next).1, (scanMembers fuel next).2) := by
  have hcolon : skipBlanks (':' :: text) = ':' :: text := skipBlanks_of_not_blank (by decide) _
  obtain ⟨c, tail, rfl, _, _, hbrace⟩ := hnext
  rw [show printString key ++ ':' :: text = '"' :: (key.flatMap escapeChar ++ '"' :: ':' :: text) by
    simp [printString]]
  simp only [scanMembers, skipString_escaped, readString_escaped, hcolon, hvalue, hskip, hnextSkip]
  split
  · rename_i heq
    cases heq
  · rename_i heq
    exact absurd (List.cons.inj heq).1 hbrace
  · rfl

/-! ## Scalars -/

/-- Nothing else than a minus or a digit begins a number. -/
theorem scanNumber_of_no_digit {c : Char} (hminus : c ≠ '-') (hdigit : Decimal.isDigit c = false)
    (tail : List Char) : scanNumber (c :: tail) = digitsMissing (c :: tail) := by
  have hunsigned : scanUnsigned false (c :: tail) = digitsMissing (c :: tail) := by
    unfold scanUnsigned
    split
    · rename_i heq
      rw [(List.cons.inj heq).1] at hdigit
      exact absurd hdigit (by decide)
    · simp [hdigit]
  unfold scanNumber
  split
  · rename_i heq
    exact absurd (List.cons.inj heq).1 hminus
  · exact hunsigned

theorem head_of_scanNumber {text rest : List Char} {value : Except Fault Number}
    (h : scanNumber text = .number value rest) :
    ∃ c tail, text = c :: tail ∧ (c = '-' ∨ Decimal.isDigit c = true) := by
  cases text with
  | nil =>
      have hempty : scanNumber [] = digitsMissing [] := rfl
      rw [hempty] at h
      exact absurd h (digitsMissing_ne _)
  | cons c tail =>
      refine ⟨c, tail, rfl, ?_⟩
      by_cases hminus : c = '-'
      · exact .inl hminus
      · cases hdigit : Decimal.isDigit c with
        | true => exact .inr rfl
        | false =>
            rw [scanNumber_of_no_digit hminus hdigit] at h
            exact absurd h (digitsMissing_ne _)

/-- A printed number scans as a number, and begins like a value. -/
theorem scanValue_number {n : Number} (hfits : n.Fits) {rest : List Char}
    (hrest : EndsNumber rest) :
    scanValue (fuel + 1) (n.print ++ rest) = (.number (.ok n), some rest) := by
  have hscan := scanNumber_print hfits hrest
  obtain ⟨c, tail, htext, hc⟩ := head_of_scanNumber hscan
  have htree : scanNumberTree (c :: tail) = (.number (.ok n), some rest) := by
    rw [scanNumberTree, ← htext, hscan]
  rw [htext]
  simp only [scanValue]
  -- a minus or a digit begins nothing else
  split
  case h_7 => rw [if_pos hc, htree]
  all_goals
    rcases hc with hc | hc
    · exact absurd hc (by decide)
    · exact absurd hc (by decide)

theorem startsPart_printString (text : List Char) : StartsPart (printString text) :=
  ⟨'"', _, rfl, by decide, by decide, by decide⟩

theorem startsPart_print {n : Number} (hfits : n.Fits) : StartsPart n.print := by
  have hend : EndsNumber [] := fun c hc => by cases hc
  obtain ⟨c, tail, htext, hc⟩ := head_of_scanNumber (scanNumber_print hfits hend)
  rw [List.append_nil] at htext
  refine ⟨c, tail, htext, ?_⟩
  rcases hc with rfl | hc
  · decide
  · refine ⟨?_, ?_, ?_⟩
    · cases hblank : isBlank c with
      | false => rfl
      | true =>
          simp only [isBlank, Bool.or_eq_true, beq_iff_eq] at hblank
          rcases hblank with ((rfl | rfl) | rfl) | rfl <;> exact absurd hc (by decide)
    · rintro rfl
      exact absurd hc (by decide)
    · rintro rfl
      exact absurd hc (by decide)

/-! ## Written values -/

theorem startsPart_written {value : Value} {text : List Char} (h : value.Written text) :
    StartsPart text := by
  cases h with
  | number hfits => exact startsPart_print hfits
  | string s => exact startsPart_printString _
  | _ => exact ⟨_, _, rfl, by decide, by decide, by decide⟩

theorem length_written_pos {value : Value} {text : List Char} (h : value.Written text) :
    0 < text.length := by
  obtain ⟨c, rest, rfl, _⟩ := startsPart_written h
  exact Nat.succ_pos _

/-- A character that is no part of a number ends one, also with blanks before it. -/
theorem endsNumber_before {after : List Char} (hafter : IsBlanks after) (c : Char)
    (h : Decimal.isDigit c = false ∧ c ≠ '.' ∧ c ≠ 'e' ∧ c ≠ 'E') (rest : List Char) :
    EndsNumber (after ++ c :: rest) := by
  intro first hfirst
  cases after with
  | nil =>
      cases hfirst
      exact h
  | cons blank tail =>
      cases hfirst
      have hblank := hafter first (List.mem_cons_self ..)
      simp only [isBlank, Bool.or_eq_true, beq_iff_eq] at hblank
      rcases hblank with ((rfl | rfl) | rfl) | rfl <;> decide

theorem skipBlanks_written {before text : List Char} (hbefore : IsBlanks before) {value : Value}
    (h : value.Written text) (rest : List Char) :
    skipBlanks (before ++ (text ++ rest)) = text ++ rest := by
  rw [skipBlanks_append hbefore, (startsPart_written h).skipBlanks]

theorem skipBlanks_name {before : List Char} (hbefore : IsBlanks before) (key : String)
    (rest : List Char) :
    skipBlanks (before ++ (printString key.toList ++ rest)) = printString key.toList ++ rest := by
  rw [skipBlanks_append hbefore, (startsPart_printString key.toList).skipBlanks]

theorem startsPart_items {values : List Value} {text : List Char}
    (h : Value.ItemsWritten values text) (rest : List Char) :
    StartsPart (skipBlanks (text ++ rest)) := by
  cases h with
  | last hbefore hafter hvalue =>
      rw [List.append_assoc, List.append_assoc, skipBlanks_written hbefore hvalue]
      exact (startsPart_written hvalue).append _
  | next hbefore hafter hvalue hrest =>
      rw [List.append_assoc, List.append_assoc, skipBlanks_written hbefore hvalue]
      exact (startsPart_written hvalue).append _

theorem startsPart_members {members : List (String × Value)} {text : List Char}
    (h : Value.MembersWritten members text) (rest : List Char) :
    StartsPart (skipBlanks (text ++ rest)) := by
  cases h with
  | last key hbefore hspace hafter hvalue =>
      rw [List.append_assoc, List.append_assoc, skipBlanks_name hbefore]
      exact (startsPart_printString _).append _
  | next key hbefore hspace hafter hvalue hrest =>
      rw [List.append_assoc, List.append_assoc, skipBlanks_name hbefore]
      exact (startsPart_printString _).append _

mutual

/-- A text that writes a value scans as a tree that holds it. -/
theorem scanValue_written : ∀ {value : Value} {text : List Char}, value.Written text →
    ∀ {rest : List Char}, EndsNumber rest → ∀ fuel, 2 * text.length ≤ fuel + 1 →
    ∃ tree, scanValue fuel (text ++ rest) = (tree, some rest) ∧ tree.Holds value
  | _, _, h, _, _, 0, hfuel => by
      have hpos := length_written_pos h
      omega
  | _, _, .null, _, _, _ + 1, _ => ⟨_, rfl, .null⟩
  | _, _, .yes, _, _, _ + 1, _ => ⟨_, rfl, .bool true⟩
  | _, _, .no, _, _, _ + 1, _ => ⟨_, rfl, .bool false⟩
  | _, _, .number hfits, _, hrest, _ + 1, _ => ⟨_, scanValue_number hfits hrest, .number _⟩
  | _, _, .string s, rest, _, fuel + 1, _ => by
      have hscan : scanValue (fuel + 1) ('"' :: (s.toList.flatMap escapeChar ++ '"' :: rest)) =
          (.string (.ok s.toList), some rest) := by
        simp only [scanValue, scanString, skipString_escaped, readString_escaped]
      have hholds := Holds.string s.toList
      rw [String.ofList_toList] at hholds
      refine ⟨_, ?_, hholds⟩
      rw [← hscan]
      simp [printString]
  | _, _, .noItems, _, _, _ + 1, _ => ⟨_, rfl, .array _ .close⟩
  | _, _, .array hitems, rest, _, fuel + 1, hfuel => by
      simp only [List.length_append, List.length_cons] at hfuel
      obtain ⟨items, hscan, hholds⟩ := scanItems_written hitems rest fuel (by omega)
      have hstep := scanValue_array fuel rfl (startsPart_items hitems (']' :: rest))
      rw [hscan] at hstep
      rw [List.cons_append, List.append_assoc]
      exact ⟨_, hstep, .array _ hholds⟩
  | _, _, .noMembers, _, _, _ + 1, _ => ⟨_, rfl, .object _ .close⟩
  | _, _, .object hmembers, rest, _, fuel + 1, hfuel => by
      simp only [List.length_append, List.length_cons] at hfuel
      obtain ⟨members, hscan, hholds⟩ := scanMembers_written hmembers rest fuel (by omega)
      have hstep := scanValue_object fuel rfl (startsPart_members hmembers ('}' :: rest))
      rw [hscan] at hstep
      rw [List.cons_append, List.append_assoc]
      exact ⟨_, hstep, .object _ hholds⟩

theorem scanItems_written : ∀ {values : List Value} {text : List Char},
    Value.ItemsWritten values text → ∀ (rest : List Char) fuel, 2 * text.length ≤ fuel →
    ∃ items, scanItems fuel (skipBlanks (text ++ ']' :: rest)) = (items, some rest) ∧
      items.Holds values
  | _, _, .last hbefore hafter hvalue, rest, fuel, hfuel => by
      have hpos := length_written_pos hvalue
      simp only [List.length_append] at hfuel
      obtain ⟨fuel, rfl⟩ : ∃ less, fuel = less + 1 := ⟨fuel - 1, by omega⟩
      obtain ⟨tree, hscan, hholds⟩ :=
        scanValue_written hvalue (endsNumber_before hafter ']' (by decide) rest) fuel (by omega)
      rw [List.append_assoc, List.append_assoc, skipBlanks_written hbefore hvalue]
      exact ⟨_, scanItems_last hscan (skipBlanks_before hafter (by decide) rest),
        .item _ hholds .close⟩
  | _, _, @Value.ItemsWritten.next _ _ _ _ _ more hbefore hafter hvalue hrest, rest, fuel,
      hfuel => by
      simp only [List.length_append, List.length_cons] at hfuel
      obtain ⟨fuel, rfl⟩ : ∃ less, fuel = less + 1 := ⟨fuel - 1, by omega⟩
      obtain ⟨tree, hscan, hholds⟩ := scanValue_written hvalue
        (endsNumber_before hafter ',' (by decide) (more ++ ']' :: rest)) fuel (by omega)
      obtain ⟨items, hitems, hmore⟩ := scanItems_written hrest rest fuel (by omega)
      have hstep := scanItems_next hscan (skipBlanks_before hafter (by decide) _) rfl
        (startsPart_items hrest (']' :: rest))
      rw [hitems] at hstep
      rw [List.append_assoc, List.append_assoc, List.append_assoc, List.cons_append,
        skipBlanks_written hbefore hvalue]
      exact ⟨_, hstep, .item _ hholds hmore⟩

theorem scanMembers_written : ∀ {members : List (String × Value)} {text : List Char},
    Value.MembersWritten members text → ∀ (rest : List Char) fuel, 2 * text.length ≤ fuel →
    ∃ tree, scanMembers fuel (skipBlanks (text ++ '\x7d' :: rest)) = (tree, some rest) ∧
      tree.Holds members
  | _, _, .last key hbefore hspace hafter hvalue, rest, fuel, hfuel => by
      simp only [List.length_append, List.length_cons] at hfuel
      obtain ⟨fuel, rfl⟩ : ∃ less, fuel = less + 1 := ⟨fuel - 1, by omega⟩
      obtain ⟨tree, hscan, hholds⟩ :=
        scanValue_written hvalue (endsNumber_before hafter '\x7d' (by decide) rest) fuel (by omega)
      rw [← skipBlanks_written hspace hvalue] at hscan
      have hheld := Members.Holds.member key.toList hholds .close
      rw [String.ofList_toList] at hheld
      simp only [List.append_assoc, List.cons_append]
      rw [skipBlanks_name hbefore]
      exact ⟨_, scanMembers_last key.toList hscan (skipBlanks_before hafter (by decide) rest),
        hheld⟩
  | _, _, @Value.MembersWritten.next key _ _ _ _ _ _ more hbefore hspace hafter hvalue hrest, rest,
      fuel, hfuel => by
      simp only [List.length_append, List.length_cons] at hfuel
      obtain ⟨fuel, rfl⟩ : ∃ less, fuel = less + 1 := ⟨fuel - 1, by omega⟩
      obtain ⟨tree, hscan, hholds⟩ := scanValue_written hvalue
        (endsNumber_before hafter ',' (by decide) (more ++ '\x7d' :: rest)) fuel (by omega)
      rw [← skipBlanks_written hspace hvalue] at hscan
      obtain ⟨members, hmembers, hmore⟩ := scanMembers_written hrest rest fuel (by omega)
      have hstep := scanMembers_next key.toList hscan (skipBlanks_before hafter (by decide) _) rfl
        (startsPart_members hrest ('\x7d' :: rest))
      rw [hmembers] at hstep
      have hheld := Members.Holds.member key.toList hholds hmore
      rw [String.ofList_toList] at hheld
      simp only [List.append_assoc, List.cons_append]
      rw [skipBlanks_name hbefore]
      exact ⟨_, hstep, hheld⟩

end

end Tree

/-! ## Documents -/

/-- Nothing follows the value of a text that writes one. -/
theorem Document.ofText_written {value : Value} {text : List Char} (h : value.Written text) :
    ∃ tree, Document.ofText text = ⟨tree, none⟩ ∧ tree.Holds value := by
  have hend : EndsNumber [] := fun c hc => by cases hc
  obtain ⟨tree, hscan, hholds⟩ := Tree.scanValue_written h hend (2 * text.length + 1) (by omega)
  have hskip := (Tree.startsPart_written h).skipBlanks []
  rw [List.append_nil] at hscan hskip
  refine ⟨tree, ?_, hholds⟩
  unfold Document.ofText
  rw [hskip, hscan]
  rfl

theorem Document.read_eq_ok {α : Type} {reader : Tree → Result α} {document : Document} {value : α}
    (h : document.read reader = .ok value) : reader document.tree = .ok value := by
  unfold Document.read at h
  split at h
  · cases h
  · cases h
  · rename_i hreader _
    rw [hreader]
    exact h

/-- An indented value is read back, with its members sorted. -/
theorem Value.ofText_toIndentedText {value : Value} (hfits : value.Fits)
    (hdepth : value.nesting ≤ nestingLimit) :
    Value.ofText value.toIndentedText = .ok value.sorted := by
  obtain ⟨tree, hdocument, hholds⟩ := Document.ofText_written (value.written_indented hfits 0)
  unfold Value.ofText Value.toIndentedText
  rw [String.toList_ofList, hdocument, Document.read, Tree.toValue_of_holds hholds hdepth]

/-- Whatever text a value is read from, its numbers are those that documents can hold, and it is not
nested too deep. -/
theorem Value.of_ofText {text : String} {value : Value} (h : Value.ofText text = .ok value) :
    value.Fits ∧ value.nesting ≤ nestingLimit := by
  have hfits : (Document.ofText text.toList).tree.Fits := by
    have hscan := Tree.fits_scanValue (2 * text.toList.length + 1) (Tree.skipBlanks text.toList)
    simp only [Document.ofText]
    split <;> exact hscan
  obtain ⟨raw, hholds, hdepth, rfl⟩ := Tree.holds_of_toValue (Document.read_eq_ok h)
  exact ⟨fits_sorted (Tree.fits_of_holds hholds hfits), Nat.le_trans (nesting_sorted_le raw) hdepth⟩

end BankStatement.Json
