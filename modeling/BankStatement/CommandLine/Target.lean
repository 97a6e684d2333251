/-!
# Stream targets

Where input comes from or output goes to: a dash selects the standard streams, and anything else is
the path of a file.
-/

namespace BankStatement

inductive Target where
  | standard
  | file (path : String)
deriving DecidableEq, Repr

namespace Target

def ofText (text : String) : Target :=
  if text = "-" then standard else file text

def toText : Target → String
  | standard => "-"
  | file path => path

/-- The target when none is named. -/
def default : Target := standard

end Target

end BankStatement
