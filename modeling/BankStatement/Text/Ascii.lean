/-!
# ASCII letters

Names and labels are compared without regard to the case of ASCII letters; other characters count
as written.
-/

namespace BankStatement.Text

/-- The small form of an ASCII letter; other characters stay. -/
def lowerAscii (c : Char) : Char :=
  if 'A' ≤ c ∧ c ≤ 'Z' then Char.ofNat (c.toNat + 32) else c

/-- The text with its ASCII letters small. -/
def lowered (text : List Char) : List Char :=
  text.map lowerAscii

end BankStatement.Text
