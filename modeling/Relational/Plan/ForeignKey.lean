import Relational.Schema.Basic

namespace Relational

structure ForeignKey where
  table : String
  column : String
  referencedTable : String
  referencedColumn : String
  deriving DecidableEq, Repr, Inhabited

inductive PlanError where
  | unknownTable (table related : String)
  | unknownThroughTable (table related through : String)
  | unknownColumn (table related missingIn column : String)
  deriving DecidableEq, Repr

namespace PlanError

def message : PlanError → String
  | unknownTable table related =>
    s!"Table '{table}' has a relationship to unknown table '{related}'"
  | unknownThroughTable table related through =>
    s!"Relationship '{table}' -> '{related}' names through-table '{through}', which does not exist"
  | unknownColumn table related missingIn column =>
    s!"Relationship '{table}' -> '{related}' needs column '{column}' " ++
      s!"on table '{missingIn}', which does not exist"

end PlanError

end Relational
