import BankStatement.Decimal.Layout
import BankStatement.Json.Value

/-!
# Printing document values

Values are printed in two layouts: compact, without any blanks, and indented, with two blanks for
each level and an item or member on each line.  Both write the same strings and numbers.
-/

namespace BankStatement.Json

/-! ## Scalars -/

/-- A digit in base sixteen, in small letters. -/
def hexDigit (n : Nat) : Char :=
  if n < 10 then Char.ofNat ('0'.toNat + n) else Char.ofNat ('a'.toNat + (n - 10))

/-- A character inside a string. -/
def escapeChar (c : Char) : List Char :=
  match c with
  | '"' => ['\\', '"']
  | '\\' => ['\\', '\\']
  | '\x08' => ['\\', 'b']
  | '\x0c' => ['\\', 'f']
  | '\n' => ['\\', 'n']
  | '\r' => ['\\', 'r']
  | '\t' => ['\\', 't']
  | c =>
      if c.toNat < 0x20 then ['\\', 'u', '0', '0', hexDigit (c.toNat / 16), hexDigit (c.toNat % 16)]
      else [c]

/-- A string with its quotes. -/
def printString (text : List Char) : List Char :=
  '"' :: text.flatMap escapeChar ++ ['"']

/-- A number. -/
def Number.print : Number → List Char
  | .integer n => Decimal.signedDigits n
  | .real x => Decimal.Layout.document.writeBinary64 x

/-! ## Compact layout -/

mutual

def Value.compact : Value → List Char
  | .null => ['n', 'u', 'l', 'l']
  | .bool true => ['t', 'r', 'u', 'e']
  | .bool false => ['f', 'a', 'l', 's', 'e']
  | .number n => n.print
  | .string s => printString s.toList
  | .array items => '[' :: compactItems items ++ [']']
  | .object members => '\x7b' :: compactMembers members ++ ['\x7d']

/-- The items of an array, with commas between them. -/
def Value.compactItems : List Value → List Char
  | [] => []
  | [value] => value.compact
  | value :: next :: rest => value.compact ++ ',' :: compactItems (next :: rest)

/-- The members of an object, with commas between them. -/
def Value.compactMembers : List (String × Value) → List Char
  | [] => []
  | [(key, value)] => printString key.toList ++ ':' :: value.compact
  | (key, value) :: next :: rest =>
      printString key.toList ++ ':' :: value.compact ++ ',' :: compactMembers (next :: rest)

end

/-! ## Indented layout -/

/-- A new line at a level. -/
def newLine (level : Nat) : List Char :=
  '\n' :: List.replicate (2 * level) ' '

mutual

/-- A value whose last line is at a level. -/
def Value.indented (level : Nat) : Value → List Char
  | .array [] => ['[', ']']
  | .array (value :: rest) =>
      '[' :: indentedItems (level + 1) (value :: rest) ++ newLine level ++ [']']
  | .object [] => ['\x7b', '\x7d']
  | .object (member :: rest) =>
      '\x7b' :: indentedMembers (level + 1) (member :: rest) ++ newLine level ++ ['\x7d']
  | .null => ['n', 'u', 'l', 'l']
  | .bool true => ['t', 'r', 'u', 'e']
  | .bool false => ['f', 'a', 'l', 's', 'e']
  | .number n => n.print
  | .string s => printString s.toList

/-- Items, each on a line of its own at the level. -/
def Value.indentedItems (level : Nat) : List Value → List Char
  | [] => []
  | [value] => newLine level ++ value.indented level
  | value :: next :: rest =>
      newLine level ++ value.indented level ++ ',' :: indentedItems level (next :: rest)

/-- Members, each on a line of its own at the level. -/
def Value.indentedMembers (level : Nat) : List (String × Value) → List Char
  | [] => []
  | [(key, value)] =>
      newLine level ++ printString key.toList ++ ':' :: ' ' :: value.indented level
  | (key, value) :: next :: rest =>
      newLine level ++ printString key.toList ++ ':' :: ' ' :: value.indented level ++
        ',' :: indentedMembers level (next :: rest)

end

/-- The compact text of a value. -/
def Value.toText (value : Value) : String := String.ofList value.compact

/-- The indented text of a value. -/
def Value.toIndentedText (value : Value) : String := String.ofList (value.indented 0)

end BankStatement.Json
