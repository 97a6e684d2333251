import BankStatement.Proofs.Statement.OfxReader

/-!
# Lines and tags of a document

Texts of any kind are written into a document: the currency, the bank, the account and the memos are
escaped, the account type is copied.  This file says what that leaves of the document's layout, its
lines and the sequence of its tags.

## Strategy

The tags are found by a scanner that knows nothing of lines or of what was written: a tag is what
stands between an opening bracket and the next closing one (`tagsFrom`).  So a bracket in a value
may swallow what follows it, and it has to be shown that none does.  `HasLayout` says of a piece of
text how many lines it has and which tags, and that it leaves no tag open.  Such pieces add up
(`HasLayout.append`), a line with an inline value has the tag that was written
(`LineTags.tagged`), and every escaped value is inline (`inline_escape`).

The account type is the one value that may not be inline.  What it opens is closed with the account
at the latest, since a closing bracket ends every tag (`openAfter_closing`); so whatever it is, the
layout of a document is that of the lines before the account type, of the stretch up to the end of
the account, and of the lines after it (`hasLayout_lines`).  The lines and tags that are written
are those of the statement's outline, and with them the text of the account type is all that the
layout depends on (`layout_of_outline`).
-/

namespace BankStatement

/-- What is said about each transaction: whether it has a user date, and whether it has a memo. -/
def Statement.outline (statement : Statement) : List (Bool × Bool) :=
  statement.transactions.map fun transaction =>
    (transaction.user.isSome, !transaction.memo.isEmpty)

namespace Ofx

/-! ## Tags of a text -/

/-- The tags of a text, where `open?` is what was read of a tag that is not closed yet. -/
def tagsFrom : Option (List Char) → List Char → List String
  | _, [] => []
  | none, c :: rest => tagsFrom (if c = '<' then some [] else none) rest
  | some name, c :: rest =>
      if c = '>' then String.ofList name :: tagsFrom none rest
      else tagsFrom (some (name ++ [c])) rest

/-- What a text leaves of a tag that is not closed. -/
def openAfter : Option (List Char) → List Char → Option (List Char)
  | open?, [] => open?
  | none, c :: rest => openAfter (if c = '<' then some [] else none) rest
  | some name, c :: rest => openAfter (if c = '>' then none else some (name ++ [c])) rest

/-- The tags of a text: what stands between an opening bracket and the next closing one. -/
def tagsOf (text : String) : List String :=
  tagsFrom none text.toList

theorem tagsFrom_append (open? : Option (List Char)) (text rest : List Char) :
    tagsFrom open? (text ++ rest) =
      tagsFrom open? text ++ tagsFrom (openAfter open? text) rest := by
  induction text generalizing open? with
  | nil => simp [tagsFrom, openAfter]
  | cons c text ih =>
      cases open? with
      | none => simp only [List.cons_append, tagsFrom, openAfter, ih]
      | some name =>
          simp only [List.cons_append, tagsFrom, openAfter]
          split
          · rw [ih, List.cons_append]
          · rw [ih]

theorem openAfter_append (open? : Option (List Char)) (text rest : List Char) :
    openAfter open? (text ++ rest) = openAfter (openAfter open? text) rest := by
  induction text generalizing open? with
  | nil => simp [openAfter]
  | cons c text ih => cases open? <;> simp only [List.cons_append, openAfter, ih]

/-- A closing bracket leaves no tag open. -/
theorem openAfter_closing (open? : Option (List Char)) (text : List Char) :
    openAfter open? (text ++ ['>']) = none := by
  rw [openAfter_append]
  cases openAfter open? text <;> rfl

theorem scan_of_no_bracket {text : List Char} (h : '<' ∉ text) :
    tagsFrom none text = [] ∧ openAfter none text = none := by
  induction text with
  | nil => simp [tagsFrom, openAfter]
  | cons c text ih =>
      have hc : c ≠ '<' := fun hc => h (hc ▸ List.mem_cons_self ..)
      have htext : '<' ∉ text := fun htext => h (List.mem_cons_of_mem c htext)
      simpa only [tagsFrom, openAfter, if_neg hc] using ih htext

/-- A name is read up to its closing bracket. -/
theorem scan_of_name {name : List Char} (h : '>' ∉ name) (sofar : List Char) :
    tagsFrom (some sofar) (name ++ ['>']) = [String.ofList (sofar ++ name)] := by
  induction name generalizing sofar with
  | nil => simp [tagsFrom]
  | cons c name ih =>
      have hc : c ≠ '>' := fun hc => h (hc ▸ List.mem_cons_self ..)
      have hname : '>' ∉ name := fun hname => h (List.mem_cons_of_mem c hname)
      rw [List.cons_append, tagsFrom, if_neg hc, ih hname, List.append_assoc, List.singleton_append]

/-! ## Inline texts -/

/-- A text that begins no tag and ends no line. -/
def Inline (text : List Char) : Prop :=
  '<' ∉ text ∧ '\n' ∉ text

theorem inline_of_plain {text : List Char} (h : PlainText text) : Inline text :=
  ⟨fun hmem => h '<' hmem (by decide), fun hmem => h '\n' hmem (by decide)⟩

/-- Escaping makes every text inline. -/
theorem inline_escape (text : String) : Inline (escape text).toList :=
  ⟨not_mem_escape (by simp) text, lineFeed_not_mem_escape text⟩

/-! ## Layouts -/

/-- The text of lines. -/
def textOf (lines : List String) : List Char :=
  lines.flatMap fun line => line.toList ++ ['\n']

theorem textOf_append (first second : List String) :
    textOf (first ++ second) = textOf first ++ textOf second :=
  List.flatMap_append ..

theorem toList_render (accountType : String) (statement : Statement) :
    (render accountType statement).toList = textOf (lines accountType statement) := by
  rw [render, String.toList_join, textOf, List.flatMap_map]
  simp

theorem length_splitLines_line (line rest : List Char) :
    (splitLines (line ++ '\n' :: rest)).length =
      line.count '\n' + 1 + (splitLines rest).length := by
  induction line with
  | nil => simp [splitLines, Nat.add_comm]
  | cons c line ih =>
      rw [List.cons_append, splitLines]
      split
      · next hc =>
        rw [hc, List.length_cons, ih, List.count_cons_self]
        omega
      · next hc =>
        rw [List.count_cons_of_ne hc]
        -- the character goes in front of the first line, which there is
        cases hrest : splitLines (line ++ '\n' :: rest) with
        | nil =>
            rw [hrest, List.length_nil] at ih
            omega
        | cons first others =>
            rw [hrest] at ih
            exact ih

/-- A text has as many lines as line feeds when nothing comes after the last one. -/
theorem length_splitLines_textOf (lines : List String) :
    (splitLines (textOf lines)).length = (textOf lines).count '\n' := by
  induction lines with
  | nil => rfl
  | cons line rest ih =>
      have htext : textOf (line :: rest) = line.toList ++ '\n' :: textOf rest := by simp [textOf]
      rw [htext, length_splitLines_line, ih, List.count_append, List.count_cons_self]
      omega

/-- What is known of a piece of a document: how many lines it ends, which tags it has, and that none
of them is left open. -/
structure HasLayout (text : List Char) (count : Nat) (tags : List String) : Prop where
  feeds : text.count '\n' = count
  tags : tagsFrom none text = tags
  closed : openAfter none text = none

instance (text : List Char) (count : Nat) (tags : List String) :
    Decidable (HasLayout text count tags) :=
  decidable_of_iff
    (text.count '\n' = count ∧ tagsFrom none text = tags ∧ openAfter none text = none)
    ⟨fun h => ⟨h.1, h.2.1, h.2.2⟩, fun h => ⟨h.feeds, h.tags, h.closed⟩⟩

theorem HasLayout.append {first second : List Char} {m n : Nat} {before after : List String}
    (hfirst : HasLayout first m before) (hsecond : HasLayout second n after) :
    HasLayout (first ++ second) (m + n) (before ++ after) where
  feeds := by rw [List.count_append, hfirst.feeds, hsecond.feeds]
  tags := by rw [tagsFrom_append, hfirst.tags, hfirst.closed, hsecond.tags]
  closed := by rw [openAfter_append, hfirst.closed, hsecond.closed]

/-- A tag as far as its closing bracket. -/
theorem hasLayout_tag {tag : String} (htag : PlainText tag.toList) :
    HasLayout ('<' :: (tag.toList ++ ['>'])) 0 [tag] where
  feeds := by
    have hfeed : '\n' ∉ tag.toList := (inline_of_plain htag).2
    simp [List.count_eq_zero_of_not_mem hfeed]
  tags := by
    have hclose : '>' ∉ tag.toList := fun hmem => htag '>' hmem (by decide)
    rw [tagsFrom, if_pos rfl, scan_of_name hclose, List.nil_append, String.ofList_toList]
  closed := openAfter_closing none ('<' :: tag.toList)

/-- An inline text and the line feed after it. -/
theorem hasLayout_inline {text : List Char} (h : Inline text) :
    HasLayout (text ++ ['\n']) 1 [] := by
  have hfeeds : (text ++ ['\n']).count '\n' = 1 := by
    rw [List.count_append, List.count_eq_zero_of_not_mem h.2]
    rfl
  have hbracket : '<' ∉ text ++ ['\n'] := by simpa using h.1
  exact ⟨hfeeds, (scan_of_no_bracket hbracket).1, (scan_of_no_bracket hbracket).2⟩

/-! ### Lines with one tag each -/

/-- Lines of which each has one tag. -/
def LineTags (lines tags : List String) : Prop :=
  HasLayout (textOf lines) tags.length tags

instance (lines tags : List String) : Decidable (LineTags lines tags) :=
  inferInstanceAs (Decidable (HasLayout (textOf lines) tags.length tags))

theorem LineTags.nil : LineTags [] [] := by decide

theorem LineTags.append {first second before after : List String} (hfirst : LineTags first before)
    (hsecond : LineTags second after) : LineTags (first ++ second) (before ++ after) := by
  unfold LineTags
  rw [textOf_append, List.length_append]
  exact HasLayout.append hfirst hsecond

/-- A line that was written with a tag has this tag, when its value is inline. -/
theorem LineTags.tagged {tag value : String} (htag : PlainText tag.toList)
    (hvalue : Inline value.toList) {lines tags : List String} (h : LineTags lines tags) :
    LineTags (Ofx.tagged tag value :: lines) (tag :: tags) := by
  have htext : textOf (Ofx.tagged tag value :: lines) =
      '<' :: (tag.toList ++ ['>']) ++ (value.toList ++ ['\n'] ++ textOf lines) := by
    simp [textOf, Ofx.tagged]
  have hlength : (tag :: tags).length = 0 + (1 + tags.length) := by
    rw [List.length_cons]
    omega
  unfold LineTags
  rw [htext, hlength]
  exact (hasLayout_tag htag).append ((hasLayout_inline hvalue).append h)

/-! ## The lines of a document -/

theorem inline_dateText (date : Option Moment) : Inline (dateText date).toList :=
  inline_of_plain (plainText_dateText date)

theorem inline_amount (x : Binary64) : Inline (amount x).toList :=
  inline_of_plain (plainText_amount x)

/-- The tag of a line that may be missing. -/
def tagIf (present : Bool) (tag : String) : List String :=
  if present then [tag] else []

/-- The tags of a transaction of which it is known what is said about it. -/
def transactionTags (outline : Bool × Bool) : List String :=
  ["STMTTRN", "TRNTYPE", "DTPOSTED"] ++ tagIf outline.1 "DTUSER" ++ ["TRNAMT", "FITID"] ++
    tagIf outline.2 "MEMO" ++ ["/STMTTRN"]

theorem lineTags_userLines (user : Option Moment) :
    LineTags (userLines user) (tagIf user.isSome "DTUSER") := by
  cases user with
  | none => exact .nil
  | some moment => exact .tagged (by decide) (inline_dateText (some moment)) .nil

theorem lineTags_memoLines (memo : String) :
    LineTags (memoLines memo) (tagIf (!memo.isEmpty) "MEMO") := by
  unfold memoLines
  cases memo.isEmpty with
  | true => exact .nil
  | false => exact .tagged (by decide) (inline_escape memo) .nil

theorem lineTags_transactionLines (transaction : Transaction) (number : Nat) :
    LineTags (transactionLines transaction number)
      (transactionTags (transaction.user.isSome, !transaction.memo.isEmpty)) := by
  have hopen : LineTags ["<STMTTRN>"] ["STMTTRN"] := by decide
  have hkind : LineTags [tagged "TRNTYPE" transaction.kind.name,
      tagged "DTPOSTED" (dateText transaction.posted)] ["TRNTYPE", "DTPOSTED"] :=
    .tagged (by decide) (inline_of_plain (plainText_kind transaction.kind))
      (.tagged (by decide) (inline_dateText transaction.posted) .nil)
  have hamount : LineTags [tagged "TRNAMT" (amount transaction.amount),
      tagged "FITID" (transactionId transaction number)] ["TRNAMT", "FITID"] :=
    .tagged (by decide) (inline_amount transaction.amount)
      (.tagged (by decide) (inline_of_plain (plainText_transactionId transaction number)) .nil)
  have hclose : LineTags ["</STMTTRN>"] ["/STMTTRN"] := by decide
  exact ((((hopen.append hkind).append (lineTags_userLines transaction.user)).append hamount).append
    (lineTags_memoLines transaction.memo)).append hclose

theorem lineTags_transactionsLines (transactions : List Transaction) (number : Nat) :
    LineTags (transactionsLines number transactions)
      (transactions.flatMap fun transaction =>
        transactionTags (transaction.user.isSome, !transaction.memo.isEmpty)) := by
  induction transactions generalizing number with
  | nil => exact .nil
  | cons transaction rest ih =>
      exact (lineTags_transactionLines transaction number).append (ih (number + 1))

/-- The tags before the account. -/
def openingTags : List String :=
  ["OFX", "SIGNONMSGSRSV1", "SONRS", "STATUS", "CODE", "SEVERITY", "/STATUS", "DTSERVER",
   "LANGUAGE", "/SONRS", "/SIGNONMSGSRSV1", "BANKMSGSRSV1", "STMTTRNRS", "TRNUID", "STATUS",
   "CODE", "SEVERITY", "/STATUS", "STMTRS", "CURDEF"]

/-- The tags of an account.  The account type may have tags of its own, and one that it opens ends
with the account. -/
def accountTags (accountType : String) : List String :=
  ["BANKACCTFROM", "BANKID", "ACCTID", "ACCTTYPE"] ++ tagsOf (accountType ++ "\n</BANKACCTFROM>")

/-- The tags after the account. -/
def closingTags (outline : List (Bool × Bool)) : List String :=
  ["BANKTRANLIST", "DTSTART", "DTEND"] ++ outline.flatMap transactionTags ++
    ["/BANKTRANLIST", "LEDGERBAL", "BALAMT", "DTASOF", "/LEDGERBAL", "/STMTRS", "/STMTTRNRS",
     "/BANKMSGSRSV1", "/OFX"]

/-- The header has no tags. -/
theorem hasLayout_header : HasLayout (textOf header) 10 [] := by decide

theorem lineTags_signOnLines (last : Option Moment) :
    LineTags (signOnLines (dateText last))
      ["SIGNONMSGSRSV1", "SONRS", "STATUS", "CODE", "SEVERITY", "/STATUS", "DTSERVER", "LANGUAGE",
       "/SONRS", "/SIGNONMSGSRSV1"] := by
  have hopen : LineTags (["<SIGNONMSGSRSV1>", "<SONRS>"] ++ status)
      ["SIGNONMSGSRSV1", "SONRS", "STATUS", "CODE", "SEVERITY", "/STATUS"] := by decide
  have hclose : LineTags [tagged "LANGUAGE" "ENG", "</SONRS>", "</SIGNONMSGSRSV1>"]
      ["LANGUAGE", "/SONRS", "/SIGNONMSGSRSV1"] := by decide
  exact hopen.append (.tagged (by decide) (inline_dateText last) hclose)

/-- The lines after the header and before the account. -/
theorem lineTags_openingLines (last : Option Moment) (currency : String) :
    LineTags (["<OFX>"] ++ signOnLines (dateText last) ++
        ["<BANKMSGSRSV1>", "<STMTTRNRS>", tagged "TRNUID" "0"] ++ status ++
        ["<STMTRS>", tagged "CURDEF" (escape currency)])
      openingTags := by
  have hopen : LineTags ["<OFX>"] ["OFX"] := by decide
  have hrequest : LineTags ["<BANKMSGSRSV1>", "<STMTTRNRS>", tagged "TRNUID" "0"]
      ["BANKMSGSRSV1", "STMTTRNRS", "TRNUID"] := by decide
  have hstatus : LineTags status ["STATUS", "CODE", "SEVERITY", "/STATUS"] := by decide
  have hstatement : LineTags ["<STMTRS>"] ["STMTRS"] := by decide
  have hcurrency : LineTags [tagged "CURDEF" (escape currency)] ["CURDEF"] :=
    .tagged (by decide) (inline_escape currency) .nil
  exact (((hopen.append (lineTags_signOnLines last)).append hrequest).append hstatus).append
    (hstatement.append hcurrency)

/-- Whatever the account type is, the end of the account closes what it opens. -/
theorem hasLayout_accountEnd (accountType : String) :
    HasLayout (accountType ++ "\n</BANKACCTFROM>").toList (accountType.toList.count '\n' + 1)
      (tagsOf (accountType ++ "\n</BANKACCTFROM>")) := by
  have hend : (accountType ++ "\n</BANKACCTFROM>").toList =
      accountType.toList ++ "\n</BANKACCTFROM".toList ++ ['>'] := by simp
  refine ⟨?_, rfl, ?_⟩
  · rw [hend, List.count_append, List.count_append]
    rfl
  · rw [hend]
    exact openAfter_closing _ _

theorem hasLayout_accountLines (accountType : String) (payer : Payer) :
    HasLayout (textOf (accountLines accountType payer)) (5 + accountType.toList.count '\n')
      (accountTags accountType) := by
  have hopen : LineTags ["<BANKACCTFROM>"] ["BANKACCTFROM"] := by decide
  have hpayer : LineTags
      [tagged "BANKID" (escape payer.bank), tagged "ACCTID" (escape payer.account)]
      ["BANKID", "ACCTID"] :=
    .tagged (by decide) (inline_escape payer.bank)
      (.tagged (by decide) (inline_escape payer.account) .nil)
  have hbefore : HasLayout (textOf (["<BANKACCTFROM>"] ++
      [tagged "BANKID" (escape payer.bank), tagged "ACCTID" (escape payer.account)])) 3
      ["BANKACCTFROM", "BANKID", "ACCTID"] := hopen.append hpayer
  have htype : HasLayout ('<' :: ("ACCTTYPE".toList ++ ['>'])) 0 ["ACCTTYPE"] :=
    hasLayout_tag (by decide)
  have hfeed : HasLayout ['\n'] 1 [] := by decide
  have hwhole := hbefore.append (htype.append ((hasLayout_accountEnd accountType).append hfeed))
  have htext : textOf (accountLines accountType payer) =
      textOf (["<BANKACCTFROM>"] ++
        [tagged "BANKID" (escape payer.bank), tagged "ACCTID" (escape payer.account)]) ++
      ('<' :: ("ACCTTYPE".toList ++ ['>']) ++
        ((accountType ++ "\n</BANKACCTFROM>").toList ++ ['\n'])) := by
    simp [textOf, accountLines, tagged]
  have hcount : 5 + accountType.toList.count '\n' =
      3 + (0 + (accountType.toList.count '\n' + 1 + 1)) := by omega
  rw [htext, hcount, accountTags]
  simpa using hwhole

theorem lineTags_balanceLines (total : Binary64) (last : Option Moment) :
    LineTags (balanceLines (amount total) (dateText last))
      ["LEDGERBAL", "BALAMT", "DTASOF", "/LEDGERBAL"] := by
  have hopen : LineTags ["<LEDGERBAL>"] ["LEDGERBAL"] := by decide
  have hclose : LineTags ["</LEDGERBAL>"] ["/LEDGERBAL"] := by decide
  exact hopen.append (.tagged (by decide) (inline_amount total)
    (.tagged (by decide) (inline_dateText last) hclose))

theorem lineTags_closingLines (statement : Statement) (start last : Option Moment) :
    LineTags
      (["<BANKTRANLIST>", tagged "DTSTART" (dateText start), tagged "DTEND" (dateText last)] ++
        transactionsLines 1 statement.transactions ++ ["</BANKTRANLIST>"] ++
        balanceLines (amount statement.total) (dateText last) ++
        ["</STMTRS>", "</STMTTRNRS>", "</BANKMSGSRSV1>", "</OFX>"])
      (closingTags statement.outline) := by
  have hopen : LineTags ["<BANKTRANLIST>"] ["BANKTRANLIST"] := by decide
  have hperiod : LineTags [tagged "DTSTART" (dateText start), tagged "DTEND" (dateText last)]
      ["DTSTART", "DTEND"] :=
    .tagged (by decide) (inline_dateText start) (.tagged (by decide) (inline_dateText last) .nil)
  have htransactions := lineTags_transactionsLines statement.transactions 1
  have hlistEnd : LineTags ["</BANKTRANLIST>"] ["/BANKTRANLIST"] := by decide
  have hclose : LineTags ["</STMTRS>", "</STMTTRNRS>", "</BANKMSGSRSV1>", "</OFX>"]
      ["/STMTRS", "/STMTTRNRS", "/BANKMSGSRSV1", "/OFX"] := by decide
  have htags : closingTags statement.outline =
      ["BANKTRANLIST"] ++ ["DTSTART", "DTEND"] ++
        (statement.transactions.flatMap fun transaction =>
          transactionTags (transaction.user.isSome, !transaction.memo.isEmpty)) ++
        ["/BANKTRANLIST"] ++ ["LEDGERBAL", "BALAMT", "DTASOF", "/LEDGERBAL"] ++
        ["/STMTRS", "/STMTTRNRS", "/BANKMSGSRSV1", "/OFX"] := by
    simp [closingTags, Statement.outline, List.flatMap_map]
  rw [htags]
  exact ((((hopen.append hperiod).append htransactions).append hlistEnd).append
    (lineTags_balanceLines statement.total last)).append hclose

/-- The lines and the tags of a document. -/
theorem hasLayout_lines (accountType : String) (statement : Statement) :
    HasLayout (textOf (lines accountType statement))
      (10 + openingTags.length + (5 + accountType.toList.count '\n') +
        (closingTags statement.outline).length)
      (openingTags ++ accountTags accountType ++ closingTags statement.outline) := by
  let start := statement.postedRange.map (·.1)
  let last := statement.postedRange.map (·.2)
  have hopening : HasLayout _ _ _ := lineTags_openingLines last statement.currency
  have hclosing : HasLayout _ _ _ := lineTags_closingLines statement start last
  have hwhole := ((hasLayout_header.append hopening).append
    (hasLayout_accountLines accountType statement.payer)).append hclosing
  have hlines : lines accountType statement = header ++
      (["<OFX>"] ++ signOnLines (dateText last) ++
        ["<BANKMSGSRSV1>", "<STMTTRNRS>", tagged "TRNUID" "0"] ++ status ++
        ["<STMTRS>", tagged "CURDEF" (escape statement.currency)]) ++
      accountLines accountType statement.payer ++
      (["<BANKTRANLIST>", tagged "DTSTART" (dateText start), tagged "DTEND" (dateText last)] ++
        transactionsLines 1 statement.transactions ++ ["</BANKTRANLIST>"] ++
        balanceLines (amount statement.total) (dateText last) ++
        ["</STMTRS>", "</STMTTRNRS>", "</BANKMSGSRSV1>", "</OFX>"]) := by
    simp only [lines, List.append_assoc, start, last]
  rw [hlines, textOf_append, textOf_append, textOf_append]
  exact hwhole

/-! ## What the layout depends on -/

theorem length_linesOf_render (accountType : String) (statement : Statement) :
    (linesOf (render accountType statement)).length =
      10 + openingTags.length + (5 + accountType.toList.count '\n') +
        (closingTags statement.outline).length := by
  rw [linesOf, List.length_map, toList_render, length_splitLines_textOf]
  exact (hasLayout_lines accountType statement).feeds

theorem tagsOf_render (accountType : String) (statement : Statement) :
    tagsOf (render accountType statement) =
      openingTags ++ accountTags accountType ++ closingTags statement.outline := by
  rw [tagsOf, toList_render]
  exact (hasLayout_lines accountType statement).tags

/-- An inline account type adds no tag to those of the account. -/
theorem accountTags_of_inline {accountType : String} (h : Inline accountType.toList) :
    accountTags accountType =
      ["BANKACCTFROM", "BANKID", "ACCTID", "ACCTTYPE", "/BANKACCTFROM"] := by
  obtain ⟨htags, hclosed⟩ := scan_of_no_bracket h.1
  rw [accountTags, tagsOf, String.toList_append, tagsFrom_append, htags, hclosed]
  rfl

/-- **What the layout of a document depends on.**  Take statements that say the same about their
transactions, which is for each one whether it has a user date and whether it has a memo.  Whatever
else they say, be it markup or line ends in the currency, the bank, the account or the memos, their
documents have the same number of lines and the same sequence of tags, as long as the account type
is the same.  For two account types this holds exactly when they have the same number of line feeds
and the account, which ends what they open, has the same tags; so it holds for all account types
that are escaped like the other texts. -/
theorem layout_of_outline (accountType : String) (statement : Statement) :
    (linesOf (render accountType statement)).length =
      10 + openingTags.length + (5 + accountType.toList.count '\n') +
        (closingTags statement.outline).length ∧
    tagsOf (render accountType statement) =
      openingTags ++ accountTags accountType ++ closingTags statement.outline ∧
    ∀ (otherType : String) (other : Statement), other.outline = statement.outline →
      ((linesOf (render otherType other)).length =
          (linesOf (render accountType statement)).length ↔
        otherType.toList.count '\n' = accountType.toList.count '\n') ∧
      (tagsOf (render otherType other) = tagsOf (render accountType statement) ↔
        accountTags otherType = accountTags accountType) ∧
      (linesOf (render (escape otherType) other)).length =
        (linesOf (render (escape accountType) statement)).length ∧
      tagsOf (render (escape otherType) other) =
        tagsOf (render (escape accountType) statement) := by
  refine ⟨length_linesOf_render accountType statement, tagsOf_render accountType statement,
    fun otherType other houtline => ?_⟩
  simp only [length_linesOf_render, tagsOf_render, houtline]
  have hfeeds : ∀ text, (escape text).toList.count '\n' = 0 := fun text =>
    List.count_eq_zero_of_not_mem (inline_escape text).2
  have htags : ∀ text, accountTags (escape text) = _ := fun text =>
    accountTags_of_inline (inline_escape text)
  refine ⟨by omega, ?_, ?_, ?_⟩
  · rw [List.append_cancel_right_eq, List.append_cancel_left_eq]
  · rw [hfeeds, hfeeds]
  · rw [htags, htags]

/-- Texts that look like tags and end lines, against plain ones. -/
theorem layout_of_outline_forgery :
    let forged : Statement :=
      ⟨"NOK\n<CURDEF>SEK", ⟨"1\r\n<ACCTID>2", "</OFX>"⟩,
        [⟨.zero false, none, none, "x\n</STMTTRN><"⟩, ⟨.zero true, none, none, ""⟩]⟩
    let plain : Statement :=
      ⟨"", ⟨"", ""⟩, [⟨.one, none, none, "x"⟩, ⟨.one, none, none, ""⟩]⟩
    forged.outline = plain.outline ∧
      (linesOf (render "A<B" forged)).length = (linesOf (render "A<B" plain)).length ∧
      tagsOf (render "A<B" forged) = tagsOf (render "A<B" plain) := by
  intro forged plain
  have houtline : forged.outline = plain.outline := by decide
  obtain ⟨_, _, hsame⟩ := layout_of_outline "A<B" plain
  obtain ⟨hlines, htags, _, _⟩ := hsame "A<B" forged houtline
  exact ⟨houtline, hlines.mpr rfl, htags.mpr rfl⟩

/-- An account type with a line and a tag of its own. -/
theorem layout_of_forgedType :
    let statement : Statement := ⟨"NOK", .default, []⟩
    (linesOf (render "CHECKING\n<MEMO>x" statement)).length =
        (linesOf (render "CHECKING" statement)).length + 1 ∧
      tagsOf (render "CHECKING\n<MEMO>x" statement) ≠ tagsOf (render "CHECKING" statement) := by
  intro statement
  rw [length_linesOf_render, length_linesOf_render, tagsOf_render, tagsOf_render]
  exact ⟨by decide, by decide⟩

end Ofx

end BankStatement
