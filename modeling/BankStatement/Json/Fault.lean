import BankStatement.Text.Utf8

/-!
# Faults of documents

What can be wrong with the text of a document, and where.  A fault is either one of the text, which
has a place, or a mismatch between a well-formed value and what is expected there, which has none.
-/

namespace BankStatement.Json

/-! ## Faults of the text -/

/-- What is wrong with a text. -/
inductive Cause where
  | endInList
  | endInObject
  | endInString
  | endInValue
  | expectedColon
  | expectedListSeparator
  | expectedObjectSeparator
  | expectedValue
  | expectedName
  | keyNotString
  | invalidEscape
  | invalidNumber
  | numberOutOfRange
  | controlCharacter
  | loneSurrogate
  | unfinishedSurrogates
  | trailingComma
  | trailingCharacters
  | nestedTooDeep
deriving DecidableEq, Repr

def Cause.message : Cause → String
  | endInList => "EOF while parsing a list"
  | endInObject => "EOF while parsing an object"
  | endInString => "EOF while parsing a string"
  | endInValue => "EOF while parsing a value"
  | expectedColon => "expected `:`"
  | expectedListSeparator => "expected `,` or `]`"
  | expectedObjectSeparator => "expected `,` or `\x7d`"
  | expectedValue => "expected value"
  | expectedName => "expected ident"
  | keyNotString => "key must be a string"
  | invalidEscape => "invalid escape"
  | invalidNumber => "invalid number"
  | numberOutOfRange => "number out of range"
  | controlCharacter => "control character (\\u0000-\\u001F) found while parsing a string"
  | loneSurrogate => "lone leading surrogate in hex escape"
  | unfinishedSurrogates => "unexpected end of hex escape"
  | trailingComma => "trailing comma"
  | trailingCharacters => "trailing characters"
  | nestedTooDeep => "recursion limit exceeded"

/-- Whether a text is at fault only because it ends too early. -/
def Cause.isEnd : Cause → Bool
  | endInList | endInObject | endInString | endInValue => true
  | _ => false

/-- A place in a text: what follows a point at which all was well, and how many bytes of it had been
looked at. -/
structure Place where
  rest : List Char
  taken : Nat
deriving DecidableEq, Repr

/-- The place of the first character of a rest, or the end of the text when there is none. -/
def Place.at (rest : List Char) : Place := ⟨rest, 1⟩

/-- The place at the end of a text. -/
def Place.atEnd : Place := ⟨[], 0⟩

/-- The line and the column of a place, counted in line feeds and bytes up to it. -/
def Place.position (place : Place) (text : List Char) : Nat × Nat :=
  let bytes := Utf8.encode text
  let before := bytes.take (bytes.length - Utf8.size place.rest + place.taken)
  (before.count 0x0a + 1, (before.reverse.takeWhile (· ≠ 0x0a)).length)

/-- A fault of the text. -/
structure Fault where
  cause : Cause
  place : Place
deriving DecidableEq, Repr

/-! ## Mismatches -/

/-- What is wrong with a value that is well-formed.  Types are given by what stands in the document
and what was expected instead. -/
inductive Mismatch where
  | missingField (name : String)
  | duplicateField (name : String)
  | wrongType (found expected : String)
  | wrongInteger (found : Int) (expected : String)
  | wrongLength (found : Nat) (record : String) (fields : Nat)
  | badText (message : String)
deriving DecidableEq, Repr

def Mismatch.message : Mismatch → String
  | missingField name => "missing field `" ++ name ++ "`"
  | duplicateField name => "duplicate field `" ++ name ++ "`"
  | wrongType found expected => "invalid type: " ++ found ++ ", expected " ++ expected
  | wrongInteger found expected =>
      "invalid value: integer `" ++ toString found ++ "`, expected " ++ expected
  | wrongLength found record fields =>
      "invalid length " ++ toString found ++ ", expected struct " ++ record ++ " with " ++
        toString fields ++ (if fields = 1 then " element" else " elements")
  | badText message => message

/-! ## Both -/

/-- Why a document was not read. -/
inductive DocumentError where
  | fault (fault : Fault)
  | mismatch (mismatch : Mismatch)
deriving DecidableEq, Repr

namespace DocumentError

/-- The text of an error, without its place. -/
def message : DocumentError → String
  | fault f => f.cause.message
  | mismatch m => m.message

/-- The text of an error in a document, with the line and column of a fault. -/
def located (text : List Char) : DocumentError → String
  | fault f =>
      let (line, column) := f.place.position text
      f.cause.message ++ " at line " ++ toString line ++ " column " ++ toString column
  | mismatch m => m.message

end DocumentError

/-- A reading that may fail. -/
abbrev Result (α : Type) := Except DocumentError α

end BankStatement.Json
