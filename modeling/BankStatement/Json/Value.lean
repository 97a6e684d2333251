import BankStatement.Binary64.Basic

/-!
# Document values

The values that a JSON document writes.  Numbers keep the difference between integers, which fit in
64 bits with or without a sign, and all others.  The members of an object are a list, in the order
in which they are written.
-/

namespace BankStatement.Json

/-- A number of a document. -/
inductive Number where
  | integer (n : Int)
  | real (x : Binary64)
deriving DecidableEq

/-- A value of a document. -/
inductive Value where
  | null
  | bool (b : Bool)
  | number (n : Number)
  | string (s : String)
  | array (items : List Value)
  | object (members : List (String × Value))

namespace Value

/-- The value of a natural number. -/
def natural (n : Nat) : Value := number (.integer n)

/-- The value of a binary64 number.  Documents have no text for infinities and for values that are
not a number. -/
def ofBinary64 (x : Binary64) : Value :=
  if x.isFinite then number (.real x) else null

/-- The first member of a name. -/
def lookup (name : String) : List (String × Value) → Option Value
  | [] => none
  | (key, value) :: rest => if key = name then some value else lookup name rest

/-- Members in ascending order of their names with one more member, which takes the place of an
earlier one of its name. -/
def insertMember (name : String) (value : Value) :
    List (String × Value) → List (String × Value)
  | [] => [(name, value)]
  | (key, other) :: rest =>
      if name < key then (name, value) :: (key, other) :: rest
      else if name = key then (name, value) :: rest
      else (key, other) :: insertMember name value rest

end Value

end BankStatement.Json
