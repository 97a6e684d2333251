import BankStatement.Text.Quoted

/-!
# Delimiters

Rows are split byte by byte, so a delimiter is one ASCII character, and none of those that quote a
field or end a row.
-/

namespace BankStatement

/-- Why a character is no delimiter. -/
inductive DelimiterError where
  | notAllowed (c : Char)
  | notSingleByte (c : Char)
deriving DecidableEq, Repr

def DelimiterError.message : DelimiterError → String
  | notAllowed c => "delimiter " ++ String.ofList (Text.quotedChar c) ++ " is not allowed"
  | notSingleByte c =>
      "delimiter " ++ String.ofList (Text.quotedChar c) ++ " is not a single-byte character"

/-- The byte that a delimiter is in the input. -/
def delimiterByte (c : Char) : Except DelimiterError UInt8 :=
  if c = '"' ∨ c = '\n' ∨ c = '\r' then .error (.notAllowed c)
  else if c.toNat < 0x80 then .ok (UInt8.ofNat c.toNat)
  else .error (.notSingleByte c)

end BankStatement
