import BankStatement.Catalog.Shape
import BankStatement.Format.Check
import BankStatement.Format.Document

/-!
# Catalogs

A catalog is the list of formats in one document.  A document becomes a catalog when it is
well-formed, matches the schema, has values in the range of their types, and every format in it can
be used.
-/

namespace BankStatement

/-- A catalog of formats. -/
structure Catalog where
  formats : List Format

/-- Why there is no catalog, or no format in it. -/
inductive CatalogError where
  | unreadable (path reason : String)
  | document (text : List Char) (error : Json.DocumentError)
  | schema (violations : List Json.Violation)
  | invalidFormat (name : String) (fault : FormatFault)
  | empty

def CatalogError.message : CatalogError → String
  | unreadable path reason => "Cannot read specification " ++ path ++ ": " ++ reason
  | document text error => "Invalid specification JSON: " ++ error.located text
  | schema violations =>
      "Specification does not match schema: " ++
        "; ".intercalate (violations.map Json.Violation.message)
  | invalidFormat name fault => "Invalid format '" ++ name ++ "': " ++ fault.message
  | empty => "Specification defines no formats"

namespace Catalog

/-! ## Reading documents -/

/-- Catalogs as a document has them, where `depth` containers may be entered inside. -/
def shape (depth : Nat) : Json.RecordShape Catalog where
  name := "SpecCatalog"
  blank := ⟨[]⟩
  slots :=
    [.of "format" .always (Json.list depth (Format.ofTree (depth - 1))) fun formats _ => ⟨formats⟩]

/-- The catalog of a value that matches the schema.  Containers may be nested as deep as they are in
the value. -/
def ofShapedValue (value : Json.Value) : Json.Result Catalog :=
  (shape (value.nesting - 1)).read value.nesting (Json.Tree.ofValue value)

/-- The first format that cannot be used, with what is wrong with it. -/
def firstFault? : List Format → Option (Format × FormatFault)
  | [] => none
  | format :: rest =>
      match format.check with
      | .error fault => some (format, fault)
      | .ok _ => firstFault? rest

/-- The catalog of a document value; `text` is the text that it comes from. -/
def ofValue (text : List Char) (value : Json.Value) : Except CatalogError Catalog :=
  match violations value with
  | violation :: rest => .error (.schema (violation :: rest))
  | [] =>
      match ofShapedValue value with
      | .error e => .error (.document text e)
      | .ok catalog =>
          match firstFault? catalog.formats with
          | some (format, fault) => .error (.invalidFormat format.name fault)
          | none => .ok catalog

/-- The catalog that a text writes. -/
def ofText (text : String) : Except CatalogError Catalog :=
  match Json.Value.ofText text with
  | .error e => .error (.document text.toList e)
  | .ok value => ofValue text.toList value

/-! ## Writing documents -/

def toValue (catalog : Catalog) : Json.Value :=
  .object [("format", .array (catalog.formats.map Format.toValue))]

/-- The indented text of a catalog. -/
def toText (catalog : Catalog) : String :=
  catalog.toValue.toIndentedText

/-! ## Looking formats up -/

/-- The names of the formats, in order. -/
def names (catalog : Catalog) : List String :=
  catalog.formats.map (·.name)

/-- The position of the first format of a name, or of the first format when none has the name. -/
def position? (catalog : Catalog) (name : String) : Option Nat :=
  match catalog.formats.findIdx? fun format => format.name == name with
  | some index => some index
  | none => if catalog.formats.isEmpty then none else some 0

/-- The first format of a name, or the first format when none has the name. -/
def find (catalog : Catalog) (name : String) : Except CatalogError Format :=
  match catalog.formats.find? fun format => format.name == name with
  | some format => .ok format
  | none =>
      match catalog.formats with
      | format :: _ => .ok format
      | [] => .error .empty

end Catalog

end BankStatement
