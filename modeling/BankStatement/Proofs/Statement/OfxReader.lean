import BankStatement.Proofs.Statement.PlainText

/-!
# Reading a statement back

A reader for the text of a statement that looks at one line at a time and never looks back.  What a
line begins with says which tag it is; the rest of it is the value, whose escapes are undone.  Tags
that matter put their value in its place, and all other lines are passed over.

## Strategy

* A value has no line feed in it once it is escaped, so the lines of the text are the lines that
  were written (`linesOf_render`).
* A line that was written with a tag is read with this tag, whatever the value is, because the value
  begins after the first closing bracket (`step_tagged`).
* Undoing the escapes of an escaped value gives the value with blanks for line ends
  (`unescape_escape`), also when the value looks like an escape itself: its ampersand was escaped.
* The lines of one transaction add one entry, and by induction those of all transactions add one
  entry each (`run_transactionLines`, `run_transactionsLines`).
-/

namespace BankStatement.Ofx

/-! ## Lines of a text -/

/-- The lines of a text, each of which a line feed ends. -/
def splitLines : List Char → List (List Char)
  | [] => []
  | c :: rest =>
      if c = '\n' then [] :: splitLines rest
      else
        match splitLines rest with
        | [] => [[c]]
        | line :: others => (c :: line) :: others

def linesOf (text : String) : List String :=
  (splitLines text.toList).map String.ofList

theorem splitLines_append {line : List Char} (h : '\n' ∉ line) (rest : List Char) :
    splitLines (line ++ '\n' :: rest) = line :: splitLines rest := by
  induction line with
  | nil => simp [splitLines]
  | cons c line ih =>
      have hc : c ≠ '\n' := fun hc => h (hc ▸ List.mem_cons_self ..)
      have hline : '\n' ∉ line := fun hline => h (List.mem_cons_of_mem c hline)
      rw [List.cons_append, splitLines, if_neg hc, ih hline]

/-- Lines without line feeds are read as they were written. -/
theorem linesOf_join {lines : List String} (h : ∀ line ∈ lines, '\n' ∉ line.toList) :
    linesOf (String.join (lines.map (· ++ "\n"))) = lines := by
  rw [linesOf, String.toList_join]
  induction lines with
  | nil => rfl
  | cons line rest ih =>
      obtain ⟨hline, hrest⟩ := List.forall_mem_cons.mp h
      have hfirst := splitLines_append hline ((rest.map (· ++ "\n")).flatMap String.toList)
      have hjoin : ((line :: rest).map (· ++ "\n")).flatMap String.toList =
          line.toList ++ '\n' :: (rest.map (· ++ "\n")).flatMap String.toList := by simp
      rw [hjoin, hfirst, List.map_cons, ih hrest, String.ofList_toList]

/-! ## Values -/

/-- A text value with its escapes undone. -/
def unescapeChars : List Char → List Char
  | '&' :: 'a' :: 'm' :: 'p' :: ';' :: rest => '&' :: unescapeChars rest
  | '&' :: 'l' :: 't' :: ';' :: rest => '<' :: unescapeChars rest
  | '&' :: 'g' :: 't' :: ';' :: rest => '>' :: unescapeChars rest
  | c :: rest => c :: unescapeChars rest
  | [] => []

def unescape (value : String) : String :=
  String.ofList (unescapeChars value.toList)

/-- A text with blanks for its line ends. -/
def oneLine (text : String) : String :=
  String.ofList (text.toList.map fun c => if c = '\r' ∨ c = '\n' then ' ' else c)

theorem unescapeChars_cons {c : Char} (h : c ≠ '&') (rest : List Char) :
    unescapeChars (c :: rest) = c :: unescapeChars rest := by
  simp [unescapeChars, h]

theorem escapeChar_of_plain {c : Char} (h : IsPlain c) : escapeChar c = [c] := by
  have hamp : c ≠ '&' := h.ne (by decide)
  have hlt : c ≠ '<' := h.ne (by decide)
  have hgt : c ≠ '>' := h.ne (by decide)
  have hreturn : c ≠ '\r' := h.ne (by decide)
  have hfeed : c ≠ '\n' := h.ne (by decide)
  simp [escapeChar]

theorem unescapeChars_escapeChar (c : Char) (rest : List Char) :
    unescapeChars (escapeChar c ++ rest) =
      (if c = '\r' ∨ c = '\n' then ' ' else c) :: unescapeChars rest := by
  -- each escape is undone by its own pattern, and no other character begins one
  by_cases h : c ∈ markup
  · simp only [markup, List.mem_cons, List.not_mem_nil, or_false] at h
    rcases h with rfl | rfl | rfl | rfl | rfl <;> rfl
  · have hplain : IsPlain c := h
    have hend : ¬ (c = '\r' ∨ c = '\n') :=
      not_or.mpr ⟨hplain.ne (by decide), hplain.ne (by decide)⟩
    rw [escapeChar_of_plain hplain, List.singleton_append,
      unescapeChars_cons (hplain.ne (by decide)), if_neg hend]

/-- Escaping loses nothing of a text but which line ends it had. -/
theorem unescape_escape (text : String) : unescape (escape text) = oneLine text := by
  rw [unescape, escape, oneLine, String.toList_ofList]
  congr 1
  induction text.toList with
  | nil => rfl
  | cons c rest ih =>
      rw [List.flatMap_cons, unescapeChars_escapeChar, ih, List.map_cons]

theorem unescape_of_plain {value : String} (h : PlainText value.toList) :
    unescape value = value := by
  have hchars : ∀ {chars : List Char}, PlainText chars → unescapeChars chars = chars := by
    intro chars hplain
    induction chars with
    | nil => rfl
    | cons c rest ih =>
        obtain ⟨hc, hrest⟩ := PlainText.cons.mp hplain
        rw [unescapeChars_cons (hc.ne (by decide)), ih hrest]
  rw [unescape, hchars h, String.ofList_toList]

/-! ## Contents -/

/-- What a document says about a transaction. -/
structure Entry where
  kind : String
  posted : String
  user : Option String
  amount : String
  id : String
  memo : Option String
deriving DecidableEq, Repr

def Entry.blank : Entry := ⟨"", "", none, "", "", none⟩

/-- The entry of a transaction with its number. -/
def Entry.ofTransaction (transaction : Transaction) (number : Nat) : Entry where
  kind := transaction.kind.name
  posted := dateText transaction.posted
  user := transaction.user.map fun moment => dateText (some moment)
  amount := Ofx.amount transaction.amount
  id := transactionId transaction number
  memo := if transaction.memo.isEmpty then none else some (oneLine transaction.memo)

/-- What a document says about a statement. -/
structure Content where
  currency : String
  bank : String
  account : String
  accountType : String
  start : String
  last : String
  entries : List Entry
deriving DecidableEq, Repr

def Content.blank : Content := ⟨"", "", "", "", "", "", []⟩

/-- The content of a statement. -/
def Content.ofStatement (accountType : String) (statement : Statement) : Content where
  currency := oneLine statement.currency
  bank := oneLine statement.payer.bank
  account := oneLine statement.payer.account
  accountType := accountType
  start := dateText (statement.postedRange.map (·.1))
  last := dateText (statement.postedRange.map (·.2))
  entries := statement.transactions.mapIdx fun index transaction =>
    .ofTransaction transaction (index + 1)

/-! ## The reader -/

/-- The tag and the value of a line.  A line that does not begin with a tag has neither. -/
def readLine (line : String) : Option (String × String) :=
  match line.toList with
  | '<' :: rest =>
      some (String.ofList (rest.takeWhile (· ≠ '>')),
        unescape (String.ofList ((rest.dropWhile (· ≠ '>')).drop 1)))
  | _ => none

/-- A text is cut at the first place of a character. -/
theorem span_ne_append {c : Char} {before : List Char} (h : c ∉ before) (after : List Char) :
    (before ++ c :: after).takeWhile (· ≠ c) = before ∧
      (before ++ c :: after).dropWhile (· ≠ c) = c :: after := by
  have hall : ∀ other ∈ before, (other ≠ c : Bool) = true := by
    intro other hother
    have hne : other ≠ c := fun hsame => h (hsame ▸ hother)
    simpa using hne
  rw [List.takeWhile_append_of_pos hall, List.dropWhile_append_of_pos hall]
  simp

/-- A line that was written with a tag has this tag, and its value with the escapes undone. -/
theorem readLine_tagged {tag : String} (htag : '>' ∉ tag.toList) (value : String) :
    readLine (tagged tag value) = some (tag, unescape value) := by
  have hline : (tagged tag value).toList = '<' :: (tag.toList ++ '>' :: value.toList) := by
    simp [tagged]
  obtain ⟨htake, hdrop⟩ := span_ne_append htag value.toList
  rw [readLine, hline]
  simp only [htake, hdrop, List.drop_succ_cons, List.drop_zero, String.ofList_toList]

/-- What has been read: the content so far, and the entry of the current transaction. -/
structure Reading where
  content : Content
  entry : Entry
deriving DecidableEq, Repr

namespace Reading

def initial : Reading := ⟨.blank, .blank⟩

/-- The reading after a tag with its value. -/
def take (r : Reading) (tag value : String) : Reading :=
  match tag with
  | "CURDEF" => { r with content := { r.content with currency := value } }
  | "BANKID" => { r with content := { r.content with bank := value } }
  | "ACCTID" => { r with content := { r.content with account := value } }
  | "ACCTTYPE" => { r with content := { r.content with accountType := value } }
  | "DTSTART" => { r with content := { r.content with start := value } }
  | "DTEND" => { r with content := { r.content with last := value } }
  | "STMTTRN" => { r with entry := .blank }
  | "TRNTYPE" => { r with entry := { r.entry with kind := value } }
  | "DTPOSTED" => { r with entry := { r.entry with posted := value } }
  | "DTUSER" => { r with entry := { r.entry with user := some value } }
  | "TRNAMT" => { r with entry := { r.entry with amount := value } }
  | "FITID" => { r with entry := { r.entry with id := value } }
  | "MEMO" => { r with entry := { r.entry with memo := some value } }
  | "/STMTTRN" =>
      { r with content := { r.content with entries := r.content.entries ++ [r.entry] } }
  | _ => r

/-- The reading after one more line. -/
def step (r : Reading) (line : String) : Reading :=
  match readLine line with
  | none => r
  | some (tag, value) => r.take tag value

/-- The reading after lines. -/
def run (r : Reading) (lines : List String) : Reading :=
  lines.foldl step r

@[simp] theorem run_nil (r : Reading) : r.run [] = r := rfl

@[simp] theorem run_cons (r : Reading) (line : String) (rest : List String) :
    r.run (line :: rest) = (r.step line).run rest := rfl

theorem run_append (r : Reading) (first second : List String) :
    r.run (first ++ second) = (r.run first).run second :=
  List.foldl_append ..

end Reading

/-- The content of a text. -/
def read (text : String) : Content :=
  (Reading.initial.run (linesOf text)).content

namespace Reading

/-- A line is read with the tag that it was written with. -/
theorem step_tagged (r : Reading) {tag : String} (htag : '>' ∉ tag.toList) (value : String) :
    r.step (tagged tag value) = r.take tag (unescape value) := by
  unfold step
  rw [readLine_tagged htag]

/-- A value without markup arrives as it is. -/
theorem step_tagged_of_plain (r : Reading) {tag : String} (htag : '>' ∉ tag.toList) {value : String}
    (hvalue : PlainText value.toList) : r.step (tagged tag value) = r.take tag value := by
  rw [step_tagged r htag, unescape_of_plain hvalue]

/-- An escaped value arrives on one line. -/
theorem step_tagged_escape (r : Reading) {tag : String} (htag : '>' ∉ tag.toList) (value : String) :
    r.step (tagged tag (escape value)) = r.take tag (oneLine value) := by
  rw [step_tagged r htag, unescape_escape]

/-! ## Transactions -/

theorem run_userLines (r : Reading) (user : Option Moment) (h : r.entry.user = none) :
    r.run (userLines user) =
      { r with entry :=
        { r.entry with user := user.map fun moment => dateText (some moment) } } := by
  cases user with
  | none => rw [userLines, run_nil, Option.map_none, ← h]
  | some moment =>
      rw [userLines, run_cons, run_nil,
        step_tagged_of_plain r (by decide) (plainText_dateText (some moment))]
      rfl

theorem run_memoLines (r : Reading) (memo : String) (h : r.entry.memo = none) :
    r.run (memoLines memo) =
      { r with entry :=
        { r.entry with memo := if memo.isEmpty then none else some (oneLine memo) } } := by
  unfold memoLines
  split
  · rw [run_nil, ← h]
  · rw [run_cons, run_nil, step_tagged_escape r (by decide)]
    rfl

/-- The lines of a transaction add its entry. -/
theorem run_transactionLines (r : Reading) (transaction : Transaction) (number : Nat) :
    r.run (transactionLines transaction number) =
      ⟨{ r.content with entries := r.content.entries ++ [.ofTransaction transaction number] },
        .ofTransaction transaction number⟩ := by
  have hfirst : r.run ["<STMTTRN>", tagged "TRNTYPE" transaction.kind.name,
      tagged "DTPOSTED" (dateText transaction.posted)] =
      ⟨r.content, { Entry.blank with
        kind := transaction.kind.name, posted := dateText transaction.posted }⟩ := by
    rw [run_cons, run_cons, run_cons, run_nil,
      step_tagged_of_plain _ (by decide) (plainText_kind transaction.kind),
      step_tagged_of_plain _ (by decide) (plainText_dateText transaction.posted)]
    rfl
  have hsecond : ∀ later : Reading, later.run [tagged "TRNAMT" (amount transaction.amount),
      tagged "FITID" (transactionId transaction number)] =
      { later with entry := { later.entry with
        amount := amount transaction.amount, id := transactionId transaction number } } := by
    intro later
    rw [run_cons, run_cons, run_nil,
      step_tagged_of_plain _ (by decide) (plainText_amount transaction.amount),
      step_tagged_of_plain _ (by decide) (plainText_transactionId transaction number)]
    rfl
  rw [transactionLines, run_append, run_append, run_append, run_append, hfirst,
    run_userLines _ _ rfl, hsecond, run_memoLines _ _ rfl]
  rfl

/-- The lines of transactions add their entries, in order. -/
theorem run_transactionsLines (r : Reading) (transactions : List Transaction) (number : Nat) :
    (r.run (transactionsLines number transactions)).content =
      { r.content with entries := r.content.entries ++
        transactions.mapIdx fun index transaction =>
          .ofTransaction transaction (number + index) } := by
  induction transactions generalizing r number with
  | nil => simp [transactionsLines]
  | cons transaction rest ih =>
      rw [transactionsLines, run_append, ih, run_transactionLines, List.mapIdx_cons]
      simp [Nat.add_assoc, Nat.add_comm 1]

/-! ## Statements -/

theorem run_accountLines (r : Reading) {accountType : String} (payer : Payer)
    (haccountType : PlainText accountType.toList) :
    r.run (accountLines accountType payer) =
      { r with content := { r.content with
        bank := oneLine payer.bank, account := oneLine payer.account, accountType } } := by
  simp only [accountLines, run_cons, run_nil]
  rw [step_tagged_escape _ (by decide) payer.bank, step_tagged_escape _ (by decide) payer.account,
    step_tagged_of_plain _ (by decide) haccountType]
  rfl

/-- Nothing is taken from the lines about the server. -/
theorem run_signOnLines (r : Reading) (last : String) : r.run (signOnLines last) = r := by
  simp only [signOnLines, run_append, run_cons, run_nil]
  rw [step_tagged _ (by decide) last]
  rfl

/-- Nothing is taken from the balance. -/
theorem run_balanceLines (r : Reading) (total last : String) :
    r.run (balanceLines total last) = r := by
  simp only [balanceLines, run_cons, run_nil]
  rw [step_tagged _ (by decide) total, step_tagged _ (by decide) last]
  rfl

theorem run_currencyLines (r : Reading) (currency : String) :
    r.run ["<STMTRS>", tagged "CURDEF" (escape currency)] =
      { r with content := { r.content with currency := oneLine currency } } := by
  rw [run_cons, run_cons, run_nil, step_tagged_escape _ (by decide)]
  rfl

theorem run_periodLines (r : Reading) (start last : Option Moment) :
    r.run ["<BANKTRANLIST>", tagged "DTSTART" (dateText start), tagged "DTEND" (dateText last)] =
      { r with content := { r.content with start := dateText start, last := dateText last } } := by
  rw [run_cons, run_cons, run_cons, run_nil,
    step_tagged_of_plain _ (by decide) (plainText_dateText start),
    step_tagged_of_plain _ (by decide) (plainText_dateText last)]
  rfl

/-- The lines of a statement are read as its content. -/
theorem content_run_lines {accountType : String} (statement : Statement)
    (haccountType : PlainText accountType.toList) :
    (initial.run (lines accountType statement)).content =
      .ofStatement accountType statement := by
  -- lines without values that matter
  have hheader : ∀ r : Reading, r.run header = r := fun _ => rfl
  have hopen : ∀ r : Reading, r.run ["<OFX>"] = r := fun _ => rfl
  have hrequest : ∀ r : Reading,
      r.run ["<BANKMSGSRSV1>", "<STMTTRNRS>", tagged "TRNUID" "0"] = r := fun _ => rfl
  have hstatus : ∀ r : Reading, r.run status = r := fun _ => rfl
  have hlistEnd : ∀ r : Reading, r.run ["</BANKTRANLIST>"] = r := fun _ => rfl
  have hclose : ∀ r : Reading,
      r.run ["</STMTRS>", "</STMTTRNRS>", "</BANKMSGSRSV1>", "</OFX>"] = r := fun _ => rfl
  simp only [lines, run_append, hheader, hopen, run_signOnLines, hrequest, hstatus,
    run_currencyLines, run_accountLines _ _ haccountType, run_periodLines, hlistEnd,
    run_balanceLines, hclose, run_transactionsLines]
  simp [Content.ofStatement, initial, Content.blank, Nat.add_comm]

end Reading

/-! ## Line feeds -/

theorem lineFeed_mem_tagged {tag value : String} :
    '\n' ∈ (tagged tag value).toList ↔ '\n' ∈ tag.toList ∨ '\n' ∈ value.toList := by
  simp [tagged]

theorem lineFeed_not_mem_of_plain {value : String} (h : PlainText value.toList) :
    '\n' ∉ value.toList :=
  fun hmem => h '\n' hmem (by decide)

/-- Escapes bring in no line feed and no opening bracket. -/
theorem not_mem_escapeChar {other : Char} (hother : other ∈ ['\n', '<']) (c : Char) :
    other ∉ escapeChar c := by
  by_cases h : c ∈ markup
  · have hall : ∀ c ∈ markup, ∀ other ∈ ['\n', '<'], other ∉ escapeChar c := by
      simp [markup, escapeChar]
    exact hall c h other hother
  · have hplain : IsPlain c := h
    have hmarkup : ∀ other ∈ ['\n', '<'], other ∈ markup := by simp [markup]
    rw [escapeChar_of_plain hplain, List.mem_singleton]
    exact (hplain.ne (hmarkup other hother)).symm

theorem not_mem_escape {other : Char} (hother : other ∈ ['\n', '<']) (text : String) :
    other ∉ (escape text).toList := by
  rw [escape, String.toList_ofList, List.mem_flatMap]
  rintro ⟨c, _, hmem⟩
  exact not_mem_escapeChar hother c hmem

theorem lineFeed_not_mem_escape (text : String) : '\n' ∉ (escape text).toList :=
  not_mem_escape (List.mem_cons_self ..) text

theorem lineFeed_not_mem_transactionLines (transaction : Transaction) (number : Nat) :
    ∀ line ∈ transactionLines transaction number, '\n' ∉ line.toList := by
  have hdate : ∀ date, '\n' ∉ (dateText date).toList := fun date =>
    lineFeed_not_mem_of_plain (plainText_dateText date)
  have huser : ∀ line ∈ userLines transaction.user, '\n' ∉ line.toList := by
    cases transaction.user with
    | none => simp [userLines]
    | some moment => simp [userLines, lineFeed_mem_tagged, hdate]
  have hmemo : ∀ line ∈ memoLines transaction.memo, '\n' ∉ line.toList := by
    unfold memoLines
    split
    · simp
    · simp [lineFeed_mem_tagged, lineFeed_not_mem_escape]
  have hkind := lineFeed_not_mem_of_plain (plainText_kind transaction.kind)
  have hamount := lineFeed_not_mem_of_plain (plainText_amount transaction.amount)
  have hid := lineFeed_not_mem_of_plain (plainText_transactionId transaction number)
  simp only [transactionLines, List.forall_mem_append]
  refine ⟨⟨⟨⟨?_, huser⟩, ?_⟩, hmemo⟩, ?_⟩
  · simp [lineFeed_mem_tagged, hkind, hdate]
  · simp [lineFeed_mem_tagged, hamount, hid]
  · simp

theorem lineFeed_not_mem_transactionsLines (transactions : List Transaction) (number : Nat) :
    ∀ line ∈ transactionsLines number transactions, '\n' ∉ line.toList := by
  induction transactions generalizing number with
  | nil => simp [transactionsLines]
  | cons transaction rest ih =>
      rw [transactionsLines, List.forall_mem_append]
      exact ⟨lineFeed_not_mem_transactionLines transaction number, ih (number + 1)⟩

/-- No value brings a line feed into a line. -/
theorem lineFeed_not_mem_lines {accountType : String} (statement : Statement)
    (haccountType : PlainText accountType.toList) :
    ∀ line ∈ lines accountType statement, '\n' ∉ line.toList := by
  have hdate : ∀ date, '\n' ∉ (dateText date).toList := fun date =>
    lineFeed_not_mem_of_plain (plainText_dateText date)
  have htotal := lineFeed_not_mem_of_plain (plainText_amount statement.total)
  have htype := lineFeed_not_mem_of_plain haccountType
  have hheader : ∀ line ∈ header, '\n' ∉ line.toList := by decide
  have hstatus : ∀ line ∈ status, '\n' ∉ line.toList := by decide
  have htransactions := lineFeed_not_mem_transactionsLines statement.transactions 1
  simp only [lines, signOnLines, accountLines, balanceLines, List.forall_mem_append]
  simpa [lineFeed_mem_tagged, lineFeed_not_mem_escape, hdate, htotal, htype] using
    And.intro (And.intro hheader hstatus) htransactions

theorem linesOf_render {accountType : String} (statement : Statement)
    (haccountType : PlainText accountType.toList) :
    linesOf (render accountType statement) = lines accountType statement :=
  linesOf_join (lineFeed_not_mem_lines statement haccountType)

/-! ## Reading what was written -/

/-- **A statement can be read back.**  Reading the text of a statement gives the content of the
statement, with blanks for the line ends of text values; so no value passes for another tag, and
statements with the same text have the same content. -/
theorem read_render {accountType : String} (haccountType : PlainText accountType.toList)
    (statement : Statement) :
    read (render accountType statement) = .ofStatement accountType statement ∧
      ∀ (otherType : String) (other : Statement), PlainText otherType.toList →
        render otherType other = render accountType statement →
        Content.ofStatement otherType other = .ofStatement accountType statement := by
  have hread : ∀ (plainType : String) (written : Statement), PlainText plainType.toList →
      read (render plainType written) = .ofStatement plainType written := by
    intro plainType written hplain
    rw [read, linesOf_render written hplain, Reading.content_run_lines written hplain]
  refine ⟨hread accountType statement haccountType, fun otherType other hother hsame => ?_⟩
  calc Content.ofStatement otherType other
      = read (render otherType other) := (hread otherType other hother).symm
    _ = read (render accountType statement) := by rw [hsame]
    _ = .ofStatement accountType statement := hread accountType statement haccountType

/-- Values that look like tags and escapes, and a transaction without a memo after one with. -/
theorem read_render_forgery :
    let statement : Statement :=
      ⟨"<CURDEF>NOK", ⟨"1\n<ACCTID>2", "&lt;"⟩,
        [⟨.zero false, none, none, "&amp;lt;\r\n</STMTTRN>"⟩, ⟨.zero false, none, none, ""⟩]⟩
    PlainText defaultAccountType.toList ∧
      (read (render defaultAccountType statement)).currency = "<CURDEF>NOK" ∧
      (read (render defaultAccountType statement)).account = "1 <ACCTID>2" ∧
      (read (render defaultAccountType statement)).bank = "&lt;" ∧
      (read (render defaultAccountType statement)).entries.map (·.memo) =
        [some "&amp;lt;  </STMTTRN>", none] := by
  intro statement
  have hplain : PlainText defaultAccountType.toList := by decide
  have hread := (read_render hplain statement).1
  refine ⟨hplain, ?_⟩
  rw [hread]
  decide

end BankStatement.Ofx
