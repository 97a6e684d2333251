import BankStatement.Format.Basic
import BankStatement.Json.Printer
import BankStatement.Json.Reading

/-!
# Formats in documents

How rules and formats are written in a document and read from one.  A rule is a record of a column,
a date pattern, parts and a multiplier; the parts, when there are any, make it a sum and the rest
has no effect.
-/

namespace BankStatement

/-! ## Rules -/

/-- A rule as a document has it. -/
structure RuleEntry where
  field : UInt64
  dateformat : Option String
  sum : List Rule
  multiplier : Binary64

namespace RuleEntry

/-- What counts where a document says nothing. -/
def blank : RuleEntry := ⟨0, none, [], .one⟩

/-- The rule of an entry.  An empty date pattern is none. -/
def toRule (entry : RuleEntry) : Rule :=
  match entry.sum with
  | [] =>
      .column entry.field entry.multiplier
        (match entry.dateformat with
          | some source => if source.isEmpty then none else some ⟨source⟩
          | none => none)
  | parts => .sum parts

/-- The shape of an entry, whose parts are read by the given reader. -/
def shape (parts : Json.Reader (List Rule)) : Json.RecordShape RuleEntry where
  name := "RawFieldRule"
  blank := blank
  slots :=
    [.of "field" .always (Json.unsigned "usize") fun field entry => { entry with field },
     .of "dateformat" .always (Json.optional Json.text) fun dateformat entry =>
      { entry with dateformat },
     .of "sum" .always parts fun sum entry => { entry with sum },
     .of "multiplier" .always Json.real fun multiplier entry => { entry with multiplier }]

end RuleEntry

namespace Rule

/-- Refuses every value, where no container may be entered any more. -/
def refuse : Json.Reader Rule := fun _ => .error (Json.tooDeep [])

/-- A rule, where `depth` containers may still be entered. -/
def ofTree : (depth : Nat) → Json.Reader Rule
  | 0 => fun tree => ((RuleEntry.shape (Json.list 0 refuse)).read 0 tree).map RuleEntry.toRule
  | 1 => fun tree => ((RuleEntry.shape (Json.list 0 refuse)).read 1 tree).map RuleEntry.toRule
  | depth + 2 => fun tree =>
      ((RuleEntry.shape (Json.list (depth + 1) (ofTree depth))).read (depth + 2) tree).map
        RuleEntry.toRule

/-- The rule that a text writes. -/
def ofText (text : String) : Json.Result Rule :=
  (Json.Document.ofText text.toList).read (ofTree Json.nestingLimit)

mutual

/-- The document value of a rule. -/
def toValue : Rule → Json.Value
  | column index multiplier pattern =>
      .object ([("field", .natural index.toNat)] ++
        (match pattern with
          | some pattern => [("dateformat", .string pattern.source)]
          | none => []) ++
        [("multiplier", .ofBinary64 multiplier)])
  | sum parts =>
      .object ([("field", .natural 0)] ++
        (match parts with
          | [] => []
          | part :: rest => [("sum", .array (part.toValue :: toValues rest))]) ++
        [("multiplier", .ofBinary64 .one)])

def toValues : List Rule → List Json.Value
  | [] => []
  | part :: rest => part.toValue :: toValues rest

end

end Rule

/-! ## Formats -/

namespace FieldRules

/-- Stands for rules that have not been read. -/
def blank : FieldRules :=
  ⟨.ofColumn 0, .ofColumn 0, .ofColumn 0, .ofColumn 0, .ofColumn 0, .ofColumn 0⟩

def shape (depth : Nat) : Json.RecordShape FieldRules where
  name := "FieldSpec"
  blank := blank
  slots :=
    [.of "trntype" .never (Rule.ofTree depth) fun trntype rules => { rules with trntype },
     .of "dtposted" .never (Rule.ofTree depth) fun dtposted rules => { rules with dtposted },
     .of "dtuser" .never (Rule.ofTree depth) fun dtuser rules => { rules with dtuser },
     .of "trnamt" .never (Rule.ofTree depth) fun trnamt rules => { rules with trnamt },
     .of "memo" .never (Rule.ofTree depth) fun memo rules => { rules with memo },
     .of "ftid" .never (Rule.ofTree depth) fun ftid rules => { rules with ftid }]

/-- The rules of a format, where `depth` containers may still be entered. -/
def ofTree (depth : Nat) : Json.Reader FieldRules :=
  (shape (depth - 1)).read depth

def toValue (rules : FieldRules) : Json.Value :=
  .object (rules.named.map fun field => (field.1, field.2.toValue))

end FieldRules

namespace Format

/-- What counts where a document says nothing. -/
def blank : Format := ⟨"", "", 0, 0, ",", none, .blank⟩

def shape (depth : Nat) : Json.RecordShape Format where
  name := "FormatSpec"
  blank := blank
  slots :=
    [.of "name" .never Json.text fun name format => { format with name },
     .of "curdef" .always Json.text fun declaredCurrency format =>
      { format with declaredCurrency },
     .of "skip-header" .always (Json.unsigned "u64") fun skipHeader format =>
      { format with skipHeader },
     .of "skip-footer" .always (Json.unsigned "u64") fun skipFooter format =>
      { format with skipFooter },
     .of "comma" .always Json.text fun comma format => { format with comma },
     .of "encoding" .always (Json.optional Json.text) fun encodingLabel format =>
      { format with encodingLabel },
     .of "fields" .never (FieldRules.ofTree depth) fun fields format => { format with fields }]

/-- A format, where `depth` containers may still be entered. -/
def ofTree (depth : Nat) : Json.Reader Format :=
  (shape (depth - 1)).read depth

/-- The format that a text writes. -/
def ofText (text : String) : Json.Result Format :=
  (Json.Document.ofText text.toList).read (ofTree Json.nestingLimit)

def toValue (format : Format) : Json.Value :=
  .object ([("name", .string format.name), ("curdef", .string format.declaredCurrency),
    ("skip-header", .natural format.skipHeader.toNat),
    ("skip-footer", .natural format.skipFooter.toNat), ("comma", .string format.comma)] ++
    (match format.encodingLabel with
      | some label => [("encoding", .string label)]
      | none => []) ++
    [("fields", format.fields.toValue)])

/-- The indented text of a format. -/
def toText (format : Format) : String :=
  format.toValue.toIndentedText

end Format

end BankStatement
