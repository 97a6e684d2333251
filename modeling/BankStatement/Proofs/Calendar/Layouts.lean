import BankStatement.Calendar.Pattern

/-!
# Reference layouts

A layout is made of parts of the reference time and of separators between them, and the parts are
found one after another from the left.  Some of them begin others, so that the order in which they
are tried matters, and so does what comes after them: `1` is the month unless a `5` follows.  Three
of them begin with a character that may also be a separator.

## Strategy

* A part is passed over for another one only if that is longer and the text goes on with what it has
  more (`pairwise_referenceTokens`).
* A separator is taken into a part only if the text goes on with the rest of that part
  (`head_or_tail_of_referenceTokens`).
* No text that is made of parts and separators begins with such an ending
  (`Interleaved.not_ending`).  The one exception is a `2` after an underscore, which is always read
  as the day with a blank on its left (`specifiersOfLayout_underscore`).

The main statement is `DatePattern.specifiers_of_interleaved`.
-/

namespace BankStatement

/-! ## Texts made of parts and separators -/

/-- A character that may stand between parts of the reference time. -/
def IsSeparator (c : Char) : Prop :=
  c.isAlphanum = false ∧ c ≠ '%'

instance (c : Char) : Decidable (IsSeparator c) :=
  inferInstanceAs (Decidable (c.isAlphanum = false ∧ c ≠ '%'))

/-- A layout that is made of parts of the reference time and of separators, and the text with each
part replaced by its own specifier and each separator kept.  An underscore may not stand before a
part that begins with `2`. -/
inductive Interleaved : List Char → List Char → Prop where
  | nil : Interleaved [] []
  | separator {layout specifiers : List Char} (c : Char) (hc : IsSeparator c)
      (hunderscore : c = '_' → layout.head? ≠ some '2') (rest : Interleaved layout specifiers) :
      Interleaved (c :: layout) (c :: specifiers)
  | token {layout specifiers : List Char} (token : String × String)
      (htoken : token ∈ referenceTokens) (rest : Interleaved layout specifiers) :
      Interleaved (token.1.toList ++ layout) (token.2.toList ++ specifiers)

/-! ## The table of parts -/

/-- What parts of the reference time have after a shorter part, or after a separator with which they
begin. -/
def tokenEndings : List (List Char) :=
  ["uary".toList, "day".toList, "006".toList, "5".toList, "07:00".toList, "0700".toList]

/-- Whether a part that is tried earlier gives way to a later one: it does not begin the later one,
and it is longer by one of the endings if the later one begins it. -/
def GivesWay (earlier later : String × String) : Prop :=
  ¬ earlier.1.toList <+: later.1.toList ∧
    (later.1.toList <+: earlier.1.toList →
      earlier.1.toList.drop later.1.toList.length ∈ tokenEndings)

instance (earlier later : String × String) : Decidable (GivesWay earlier later) :=
  inferInstanceAs (Decidable (_ ∧ (_ → _)))

theorem pairwise_referenceTokens : referenceTokens.Pairwise GivesWay := by
  decide

/-- A part begins with a letter or a digit, or it is the day with a blank on its left, or it has one
of the endings after its first character. -/
theorem head_or_tail_of_referenceTokens {token : String × String} (h : token ∈ referenceTokens)
    {c : Char} {tail : List Char} (htoken : token.1.toList = c :: tail) :
    c.isAlphanum = true ∨ (c = '_' ∧ tail = ['2']) ∨ tail ∈ tokenEndings := by
  have htable : ∀ token ∈ referenceTokens, token.1.toList.head?.any Char.isAlphanum = true ∨
      token.1.toList = ['_', '2'] ∨ token.1.toList.tail ∈ tokenEndings := by
    decide
  have hentry := htable token h
  rw [htoken] at hentry
  simpa using hentry

/-- No part begins with an ending, and no ending with a part. -/
theorem not_prefix_tokenEndings :
    ∀ token ∈ referenceTokens, ∀ ending ∈ tokenEndings,
      ¬ ending <+: token.1.toList ∧ ¬ token.1.toList <+: ending := by
  decide

theorem head_tokenEndings {ending : List Char} (h : ending ∈ tokenEndings) :
    ∃ c tail, ending = c :: tail ∧ c.isAlphanum = true := by
  have htable : ∀ ending ∈ tokenEndings, ending.head?.any Char.isAlphanum = true := by
    decide
  have hhead := htable ending h
  cases ending with
  | nil => cases hhead
  | cons c tail => exact ⟨c, tail, rfl, hhead⟩

theorem exists_cons_of_mem_referenceTokens {token : String × String} (h : token ∈ referenceTokens) :
    ∃ c tail, token.1.toList = c :: tail := by
  have htable : ∀ token ∈ referenceTokens, token.1.toList ≠ [] := by
    decide
  exact List.exists_cons_of_ne_nil (htable token h)

/-! ## What follows a part or a separator -/

/-- A text that is made of parts and separators begins with none of the endings. -/
theorem Interleaved.not_ending {layout specifiers : List Char}
    (h : Interleaved layout specifiers) : ∀ ending ∈ tokenEndings, ¬ ending <+: layout := by
  intro ending hending hprefix
  obtain ⟨first, tail, rfl, hfirst⟩ := head_tokenEndings hending
  cases h with
  | nil => cases List.prefix_nil.mp hprefix
  | separator c hc _ _ =>
      obtain rfl := (List.cons_prefix_cons.mp hprefix).1
      rw [hc.1] at hfirst
      cases hfirst
  | token token htoken _ =>
      obtain ⟨hlonger, hshorter⟩ := not_prefix_tokenEndings token htoken _ hending
      rcases List.prefix_or_prefix_of_prefix hprefix (List.prefix_append _ _) with hless | hmore
      · exact hlonger hless
      · exact hshorter hmore

section

variable {rest : List Char}

/-- An earlier part does not fit where a later one stands, unless that goes on with an ending. -/
theorem GivesWay.not_prefix {earlier later : String × String} (h : GivesWay earlier later)
    (hrest : ∀ ending ∈ tokenEndings, ¬ ending <+: rest) :
    ¬ earlier.1.toList <+: later.1.toList ++ rest := by
  intro hprefix
  rcases List.prefix_or_prefix_of_prefix hprefix (List.prefix_append _ _) with hless | hmore
  · exact h.1 hless
  · have hending := h.2 hmore
    obtain ⟨ending, hearlier⟩ := hmore
    rw [← hearlier] at hprefix hending
    rw [List.drop_left] at hending
    exact hrest ending hending ((List.prefix_append_right_inj _).mp hprefix)

/-- The part that is found at the front of a layout. -/
def frontToken? (layout : List Char) : Option (String × String) :=
  referenceTokens.find? fun token => token.1.toList.isPrefixOf layout

/-- A part is found unless it goes on with an ending. -/
theorem frontToken?_token {token : String × String} (htoken : token ∈ referenceTokens)
    (hrest : ∀ ending ∈ tokenEndings, ¬ ending <+: rest) :
    frontToken? (token.1.toList ++ rest) = some token := by
  have hfits : token.1.toList.isPrefixOf (token.1.toList ++ rest) = true :=
    List.isPrefixOf_iff_prefix.mpr (List.prefix_append _ _)
  obtain ⟨before, after, htable⟩ := List.append_of_mem htoken
  have hpairs := pairwise_referenceTokens
  rw [htable] at hpairs
  rw [frontToken?, htable]
  apply List.find?_eq_some_iff_append.mpr
  refine ⟨hfits, before, after, rfl, ?_⟩
  intro earlier hearlier
  have hway : GivesWay earlier token :=
    (List.pairwise_append.mp hpairs).2.2 earlier hearlier token List.mem_cons_self
  rw [Bool.not_eq_true', Bool.eq_false_iff]
  exact mt List.isPrefixOf_iff_prefix.mp (hway.not_prefix hrest)

/-- A separator begins no part, unless it goes on with an ending, or it is an underscore and goes on
with a `2`. -/
theorem frontToken?_separator {c : Char} (hc : IsSeparator c)
    (hunderscore : c = '_' → rest.head? ≠ some '2')
    (hrest : ∀ ending ∈ tokenEndings, ¬ ending <+: rest) : frontToken? (c :: rest) = none := by
  apply List.find?_eq_none.mpr
  intro token htoken hfits
  obtain ⟨first, tail, hparts⟩ := exists_cons_of_mem_referenceTokens htoken
  rw [hparts] at hfits
  obtain ⟨rfl, htail⟩ := List.cons_prefix_cons.mp (List.isPrefixOf_iff_prefix.mp hfits)
  rcases head_or_tail_of_referenceTokens htoken hparts with hfirst | ⟨hfirst, rfl⟩ | hending
  · rw [hc.1] at hfirst
    cases hfirst
  · apply hunderscore hfirst
    obtain ⟨others, rfl⟩ := htail
    rfl
  · exact hrest tail hending htail

/-! ## The specifiers of a layout -/

theorem specifiersOfLayout_of_some {token : String × String} (htoken : token ∈ referenceTokens)
    (hfound : frontToken? (token.1.toList ++ rest) = some token) :
    specifiersOfLayout (token.1.toList ++ rest) = token.2.toList ++ specifiersOfLayout rest := by
  obtain ⟨c, tail, hparts⟩ := exists_cons_of_mem_referenceTokens htoken
  have hlength : token.1.length - 1 = tail.length := by
    rw [← String.length_toList, hparts]
    rfl
  rw [hparts, List.cons_append, frontToken?] at hfound
  rw [hparts, List.cons_append, specifiersOfLayout, hfound]
  show token.2.toList ++ specifiersOfLayout ((tail ++ rest).drop (token.1.length - 1)) = _
  rw [hlength, List.drop_left]

theorem specifiersOfLayout_of_none {c : Char} (hnone : frontToken? (c :: rest) = none) :
    specifiersOfLayout (c :: rest) = c :: specifiersOfLayout rest := by
  rw [frontToken?] at hnone
  rw [specifiersOfLayout, hnone]

/-- An underscore before a `2` is no separator, whatever follows. -/
theorem specifiersOfLayout_underscore (rest : List Char) :
    specifiersOfLayout ('_' :: '2' :: rest) = '%' :: 'e' :: specifiersOfLayout rest := by
  have hfound : frontToken? ("_2".toList ++ rest) = some ("_2", "%e") := by
    simp [frontToken?, referenceTokens, List.isPrefixOf]
  have htoken : ("_2", "%e") ∈ referenceTokens := by decide
  exact specifiersOfLayout_of_some htoken hfound

end

/-- Parts are replaced and separators kept. -/
theorem Interleaved.specifiersOfLayout_eq {layout specifiers : List Char}
    (h : Interleaved layout specifiers) : specifiersOfLayout layout = specifiers := by
  induction h with
  | nil => rw [specifiersOfLayout]
  | separator c hc hunderscore rest ih =>
      rw [specifiersOfLayout_of_none (frontToken?_separator hc hunderscore rest.not_ending), ih]
  | token token htoken rest ih =>
      rw [specifiersOfLayout_of_some htoken (frontToken?_token htoken rest.not_ending), ih]

/-! ## The specifiers of a pattern -/

theorem Interleaved.percent_not_mem {layout specifiers : List Char}
    (h : Interleaved layout specifiers) : '%' ∉ layout := by
  have htable : ∀ token ∈ referenceTokens, '%' ∉ token.1.toList := by
    decide
  induction h with
  | nil => exact List.not_mem_nil
  | separator c hc _ _ ih =>
      intro hmem
      rcases List.mem_cons.mp hmem with heq | hmem
      · exact hc.2 heq.symm
      · exact ih hmem
  | token token htoken _ ih =>
      intro hmem
      rcases List.mem_append.mp hmem with hmem | hmem
      · exact htable token htoken hmem
      · exact ih hmem

namespace DatePattern

theorem specifiers_ofList {layout : List Char} (h : '%' ∉ layout) :
    (DatePattern.mk (String.ofList layout)).specifiers =
      String.ofList (specifiersOfLayout layout) := by
  have hpercent : ¬ layout.contains '%' = true := mt List.contains_iff_mem.mp h
  rw [specifiers, String.toList_ofList, if_neg hpercent]

/-- **Layouts are read as they are meant.**  A pattern that is made of any parts of the reference
time and any separators between them, also without separators, has the specifiers of these parts
with the same separators between them, as long as no underscore stands before a part that begins
with `2`. -/
theorem specifiers_of_interleaved {layout specifiers : List Char}
    (h : Interleaved layout specifiers) :
    (DatePattern.mk (String.ofList layout)).specifiers = String.ofList specifiers := by
  rw [specifiers_ofList h.percent_not_mem, h.specifiersOfLayout_eq]

/-- A layout in which only an underscore and the sign of the zone separate parts. -/
theorem specifiers_of_interleaved_compact :
    (DatePattern.mk "20060102_150405-0700").specifiers = "%Y%m%d_%H%M%S%z" := by
  have hzone : Interleaved "-0700".toList "%z".toList := .token ("-0700", "%z") (by decide) .nil
  have htime : Interleaved "150405-0700".toList "%H%M%S%z".toList :=
    .token ("15", "%H") (by decide) (.token ("04", "%M") (by decide)
      (.token ("05", "%S") (by decide) hzone))
  have hlayout : Interleaved "20060102_150405-0700".toList "%Y%m%d_%H%M%S%z".toList :=
    .token ("2006", "%Y") (by decide) (.token ("01", "%m") (by decide)
      (.token ("02", "%d") (by decide) (.separator '_' (by decide) (by decide) htime)))
  exact specifiers_of_interleaved hlayout

end DatePattern

end BankStatement
