import BankStatement.Text.Printable

/-!
# Quoted text

A quoted text stands between quotes and shows every character: the quote itself, the backslash and
the usual controls have short escapes, and whatever would be invisible or would join its neighbour
is shown by its code point.  So a quoted text has no line breaks.
-/

namespace BankStatement.Text

/-- The digits of a number in base sixteen, with small letters. -/
def hexDigits (n : Nat) : List Char :=
  Nat.toDigits 16 n

/-- A character inside quotes.  Only the quote that encloses the text needs an escape. -/
def escapeQuoted (quote c : Char) : List Char :=
  if c = '\x00' then ['\\', '0']
  else if c = '\t' then ['\\', 't']
  else if c = '\r' then ['\\', 'r']
  else if c = '\n' then ['\\', 'n']
  else if c = '\\' then ['\\', '\\']
  else if c = quote then ['\\', c]
  else if isExtending c || isUnprintable c then
    ['\\', 'u', '\x7b'] ++ hexDigits c.toNat ++ ['\x7d']
  else [c]

/-- A text between double quotes. -/
def quoted (text : List Char) : List Char :=
  '"' :: text.flatMap (escapeQuoted '"') ++ ['"']

/-- A character between single quotes. -/
def quotedChar (c : Char) : List Char :=
  '\'' :: escapeQuoted '\'' c ++ ['\'']

end BankStatement.Text
