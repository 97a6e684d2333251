import BankStatement.Json.Schema

/-!
# The schema of catalog documents

A catalog document is an object with an optional list of formats; a format has a name and rules for
six fields, and rules may have rules as parts.  Members of other names are not constrained.
-/

namespace BankStatement.Catalog

open Json (Schema)

/-- A value of one type. -/
def typed (type : Json.ValueType) : Schema :=
  .keywords [type] none none [] [] none []

/-- A whole number from zero on. -/
def countSchema : Schema :=
  .keywords [.integer] (some (.integer 0)) none [] [] none []

/-- An array of values of a definition. -/
def arrayOf (definition : String) : Schema :=
  .keywords [.array] none none [] [] (some (.reference definition)) []

def documentSchema : Schema :=
  .keywords [.object] none none [] [] none [("format", arrayOf "format")]

def formatSchema : Schema :=
  .keywords [.object] none none ["name", "fields"] [] none
    [("name", .keywords [.string] none (some 1) [] [] none []), ("curdef", typed .string),
     ("skip-header", countSchema), ("skip-footer", countSchema), ("comma", typed .string),
     ("encoding", typed .string), ("fields", .reference "fields")]

/-- The names of the six fields. -/
def fieldNames : List String :=
  ["trntype", "dtposted", "dtuser", "trnamt", "memo", "ftid"]

def fieldsSchema : Schema :=
  .keywords [.object] none none fieldNames [] none
    (fieldNames.map fun name => (name, .reference "rule"))

def ruleSchema : Schema :=
  .keywords [.object] none none [] [] none
    [("field", countSchema), ("dateformat", typed .string), ("multiplier", typed .number),
     ("sum", arrayOf "rule")]

def definitions : Schema.Definitions :=
  [("format", formatSchema), ("fields", fieldsSchema), ("rule", ruleSchema)]

/-- What a value violates as a catalog document. -/
def violations (value : Json.Value) : List Json.Violation :=
  documentSchema.violations definitions value

end BankStatement.Catalog
